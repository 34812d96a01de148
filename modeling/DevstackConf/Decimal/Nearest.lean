import DevstackConf.Decimal.Shortest

/-!
# Reading decimal numbers as doubles

`nearestRatio negative a b` is the double nearest to `± a / b`, a tie going to the even
significand, with infinity past the largest finite double. It finds the binary exponent that
leaves a 53-bit significand (or the least exponent, for subnormals), divides exactly and rounds
the quotient by its remainder. `nearest negative m p` is the double nearest to `± m · 10^p`. Values far beyond the range of doubles are decided from their
digit count alone, so that no huge power of ten is ever built.

`parse?` reads the number syntax of a standard double reader: an optional sign, then digits with
at most one point and at least one digit, then an optional exponent `e` or `E` with an optional
sign; or one of the words `inf`, `infinity`, `nan` in any letter case.
-/

namespace DevstackConf.Decimal

/-- `⌊log₂ (a / b)⌋` for positive `a` and `b`. The bit lengths fix it up to one. -/
def floorLog2 (a b : Nat) : Int :=
  let t : Int := (a.log2 : Int) - (b.log2 : Int)
  let fits := if t ≥ 0 then b * Nat.pow 2 t.toNat ≤ a else b ≤ a * Nat.pow 2 (-t).toNat
  if fits then t else t - 1

/-- The infinity of the given sign. -/
def infinity (negative : Bool) : Float := Float.ofBits (Binary.encode negative 2047 0)

/-- The zero of the given sign. -/
def zero (negative : Bool) : Float := Float.ofBits (Binary.encode negative 0 0)

/-- The double nearest to `± a / b` for a positive `b`, ties to even, with infinity past the
largest finite double. -/
def nearestRatio (negative : Bool) (a b : Nat) : Float :=
  if a = 0 then zero negative
  else
    let e2 := max (floorLog2 a b - 52) Binary.leastExponent
    let (num, den) := if e2 ≥ 0 then (a, b * Nat.pow 2 e2.toNat) else (a * Nat.pow 2 (-e2).toNat, b)
    let q := num / den
    let r := num % den
    let q := if 2 * r > den || (2 * r == den && q % 2 == 1) then q + 1 else q
    let (q, e2) := if q = Nat.pow 2 53 then (Nat.pow 2 52, e2 + 1) else (q, e2)
    let field : Int := if q < Nat.pow 2 52 then 0 else e2 + 1075
    if field ≥ 2047 then infinity negative
    else Float.ofBits (Binary.encode negative field.toNat (q % Nat.pow 2 52))

/-- The double nearest to `± m · 10^p`, ties to even. -/
def nearest (negative : Bool) (m : Nat) (p : Int) : Float :=
  let magnitude : Int := (digitCount m : Int) + p
  if m = 0 then zero negative
  else if magnitude > 310 then infinity negative
  else if magnitude < -330 then zero negative
  else if p ≥ 0 then nearestRatio negative (m * Nat.pow 10 p.toNat) 1
  else nearestRatio negative m (Nat.pow 10 (-p).toNat)

/-- The value of a run of decimal digits. -/
def digitsValue (ds : List Char) : Nat :=
  ds.foldl (fun acc c => acc * 10 + (c.toNat - '0'.toNat)) 0

/-- Splits off the longest prefix of decimal digits. -/
def spanDigits (cs : List Char) : List Char × List Char :=
  (cs.takeWhile Char.isDigit, cs.dropWhile Char.isDigit)

/-- Reads an optional exponent part: nothing at all, or `e`/`E`, an optional sign and digits. -/
def exponentPart? : List Char → Option Int
  | [] => some 0
  | c :: rest =>
    if c = 'e' || c = 'E' then
      let (negative, body) := match rest with
        | '+' :: b => (false, b)
        | '-' :: b => (true, b)
        | b => (false, b)
      if body.isEmpty || !body.all Char.isDigit then none
      else
        let v : Int := digitsValue body
        some (if negative then -v else v)
    else none

/-- Reads an unsigned decimal number: digits, an optional point with digits, an exponent. -/
def unsignedNumber? (cs : List Char) : Option (Nat × Int) :=
  let (whole, rest) := spanDigits cs
  let (frac, rest) := match rest with
    | '.' :: r => spanDigits r
    | r => ([], r)
  if whole.isEmpty && frac.isEmpty then none
  else
    match exponentPart? rest with
    | none => none
    | some e => some (digitsValue (whole ++ frac), e - frac.length)

/-- Reads a double in the standard reader's syntax; see the module note. -/
def parse? (s : String) : Option Float :=
  let (negative, body) := match s.toList with
    | '+' :: b => (false, b)
    | '-' :: b => (true, b)
    | b => (false, b)
  let word := String.ofList (body.map Char.toLower)
  if word = "inf" || word = "infinity" then some (infinity negative)
  else if word = "nan" then some (0.0 / 0.0)
  else (unsignedNumber? body).map fun (m, p) => nearest negative m p

end DevstackConf.Decimal
