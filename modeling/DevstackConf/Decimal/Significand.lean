import DevstackConf.Decimal.Nearest

/-!
# Reading JSON numbers through a 64-bit significand

The numbers of a JSON text are read as a reader does that keeps their digits in one significand
of 64 bits:

* the digits of the whole part are taken while the significand stays below `2^64`; each further
  digit of the whole part only raises the decimal exponent by one;
* the digits of the fraction are then taken while the significand stays below `2^64`, each
  lowering the exponent by one; the first digit that does not fit ends the fraction and the
  rest of it is dropped;
* an exponent part adds to the exponent, which is kept in 32 bits: an exponent part too long for
  them makes a zero, or no number when the value would be huge.

A number written as a whole part alone whose digits all fit stays a whole number: any such
number without a sign, and a negative one down to `-2^63`; `-0` and more negative whole numbers
become doubles. Every other number is the double `s ⊗ 10^k` for a non-negative `k`, or
`s ⊘ 10^-k` for a negative one, where `s` is the significand rounded to a double, `10^k` is
rounded to a double, and `⊗` and `⊘` round the exact product and quotient to the nearest double.
A negative exponent below `-308` is first raised by steps of `308`, dividing by `10^308` each
time. The result is not always the double nearest to the decimal: it is what such a reader
gives, and a product past the largest double is no number at all.
-/

namespace DevstackConf.Decimal

/-- The largest significand, `2^64 - 1`. -/
def significandLimit : Nat := Nat.pow 2 64 - 1

/-- A JSON number as read: a whole number with its sign, or a double. -/
inductive JsonNumber where
  /-- The whole number `± n`. -/
  | whole (negative : Bool) (n : Nat)
  /-- A double. -/
  | double (x : Float)

/-- Appends digits to the significand `s` while it stays within 64 bits: the significand and
the digits left over. -/
def fill (s : Nat) : List Nat → Nat × List Nat
  | [] => (s, [])
  | d :: ds => if s * 10 + d ≤ significandLimit then fill (s * 10 + d) ds else (s, d :: ds)

/-- A finite double's magnitude as a ratio `num / den`. -/
def magnitudeRatio (x : Float) : Nat × Nat :=
  match Binary.ofFloat x with
  | .finite _ m e => if e ≥ 0 then (m * Nat.pow 2 e.toNat, 1) else (m, Nat.pow 2 (-e).toNat)
  | _ => (0, 1)

/-- The double nearest to the product of two non-negative finite doubles. -/
def mulRounded (x y : Float) : Float :=
  let (a, b) := magnitudeRatio x
  let (c, d) := magnitudeRatio y
  nearestRatio false (a * c) (b * d)

/-- The double nearest to the quotient of two non-negative finite doubles, `y` not zero. -/
def divRounded (x y : Float) : Float :=
  let (a, b) := magnitudeRatio x
  let (c, d) := magnitudeRatio y
  nearestRatio false (a * d) (b * c)

/-- Whether a double is infinite. -/
def isInfinite (x : Float) : Bool :=
  match Binary.ofFloat x with
  | .infinite _ => true
  | _ => false

/-- Whether a double is a zero. -/
def isZero (x : Float) : Bool :=
  match Binary.ofFloat x with
  | .finite _ m _ => m == 0
  | _ => false

/-- `f ⊗ 10^k` or `f ⊘ 10^-k` for a non-negative `f`, or nothing past the largest double; see the
module note. Each round of `fuel` raises an exponent below `-308` by `308`. -/
def scaleByPowerOfTen : Nat → Float → Int → Option Float
  | 0, _, _ => none
  | fuel + 1, f, k =>
    if k.natAbs ≤ 308 then
      if k ≥ 0 then
        let r := mulRounded f (nearest false 1 k)
        if isInfinite r then none else some r
      else some (divRounded f (nearest false 1 (-k)))
    else if isZero f then some f
    else if k ≥ 0 then none
    else scaleByPowerOfTen fuel (divRounded f (nearest false 1 308)) (k + 308)

/-- The double `± s · 10^k` as the reader builds it; see the module note. -/
def fromParts (negative : Bool) (s : Nat) (k : Int) : Option Float :=
  (scaleByPowerOfTen (k.natAbs / 308 + 2) (nearest false s 0) k).map fun f =>
    if negative then -f else f

/-- The least and the greatest 32-bit exponents. -/
def exponentBounds : Int × Int := (-Int.pow 2 31, Int.pow 2 31 - 1)

/-- The value of exponent digits, or nothing once it passes `2^31 - 1`. -/
def exponentValue? (ds : List Nat) : Option Nat :=
  ds.foldlM (fun e d => if e * 10 + d ≤ Nat.pow 2 31 - 1 then some (e * 10 + d) else none) 0

/-- The decimal digits of a run of digit characters. -/
def digitValues (cs : List Char) : List Nat := cs.map fun c => c.toNat - '0'.toNat

/-- Reads the exponent part after `e` or `E`, given the sign of the number, its significand and
its exponent so far: the double, or nothing when the text is no exponent part or the value is
beyond the doubles. -/
def readExponent (negative : Bool) (s : Nat) (k : Int) (cs : List Char) : Option Float :=
  let (up, body) := match cs with
    | '+' :: b => (true, b)
    | '-' :: b => (false, b)
    | b => (true, b)
  if body.isEmpty || !body.all Char.isDigit then none
  else
    match exponentValue? (digitValues body) with
    | none => if s != 0 && up then none else some (zero negative)
    | some e =>
      let k := if up then k + e else k - e
      fromParts negative s (max exponentBounds.1 (min exponentBounds.2 k))

/-- Reads the rest of a number after its whole part: nothing, a fraction, an exponent part, or a
fraction and an exponent part. -/
def readRest (negative : Bool) (s : Nat) (k : Int) : List Char → Option Float
  | [] => fromParts negative s k
  | '.' :: cs =>
    let (frac, rest) := spanDigits cs
    if frac.isEmpty then none
    else
      let (s', left) := fill s (digitValues frac)
      let k := k - (frac.length - left.length : Nat)
      match rest with
      | [] => fromParts negative s' k
      | c :: more => if c = 'e' || c = 'E' then readExponent negative s' k more else none
  | c :: more => if c = 'e' || c = 'E' then readExponent negative s k more else none

/-- Reads a JSON number; nothing when the text is not one or names a value beyond the doubles.
See the module note. -/
def readJsonNumber? (text : String) : Option JsonNumber :=
  let (negative, cs) := match text.toList with
    | '-' :: cs => (true, cs)
    | cs => (false, cs)
  let (whole, rest) := spanDigits cs
  if whole.isEmpty || (whole.length > 1 && whole.head? == some '0') then none
  else
    let (s, left) := fill 0 (digitValues whole)
    if rest.isEmpty && left.isEmpty then
      if !negative then some (.whole false s)
      else if s = 0 then some (.double (zero true))
      else if s ≤ Nat.pow 2 63 then some (.whole true s)
      else some (.double (nearest true s 0))
    else (readRest negative s left.length rest).map .double

end DevstackConf.Decimal
