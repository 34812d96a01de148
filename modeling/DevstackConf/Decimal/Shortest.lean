import DevstackConf.Decimal.Binary

/-!
# Shortest decimal digits of a double

Every finite nonzero double `v = m · 2^e` is the nearest double to each real number of an
interval around it: halfway to each neighbour, the ends included exactly when `m` is even
(reading rounds ties to even). Below the least normal exponent the neighbours are equally
spaced; at `m = 2^52` the lower neighbour is half as far as the upper one.

`Scientific.shortest` finds the fewest significant digits whose value lies in that interval.
The first digit position is fixed by the upper end of the interval, so that rounding the last
digit up never carries into a new position. For `n = 1, 2, …` digits it tests the two values of
the `n`-digit grid next to `v`: the first `n` with one of them inside wins. If both are inside,
the nearer one is taken, and an exact tie goes up. All of this is exact arithmetic on natural
numbers, with every quantity scaled to quarters of the spacing `2^e`.
-/

namespace DevstackConf.Decimal

/-- A nonzero decimal `d₁.d₂d₃… × 10^exponent`, given by its significant digits, the first of
them nonzero. -/
structure Scientific where
  /-- The significant digits. -/
  digits : String
  /-- The power of ten of the first digit. -/
  exponent : Int
  deriving DecidableEq, Repr

/-- Compares `c · 10^p` with `x / d`. -/
def compareScaled (c : Nat) (p : Int) (x d : Nat) : Ordering :=
  if p ≥ 0 then compare (c * Nat.pow 10 p.toNat * d) x
  else compare (c * d) (x * Nat.pow 10 (-p).toNat)

/-- `⌊x / (d · 10^p)⌋`. -/
def floorScaled (x d : Nat) (p : Int) : Nat :=
  if p ≥ 0 then x / (d * Nat.pow 10 p.toNat) else x * Nat.pow 10 (-p).toNat / d

/-- The number of decimal digits of `n`. -/
def digitCount (n : Nat) : Nat := (Nat.toDigits 10 n).length

/-- `⌊log₁₀ (x / d)⌋` for positive `x` and `d`. The digit counts of `x` and `d` fix it up to one. -/
def floorLog10 (x d : Nat) : Int :=
  let t : Int := (digitCount x : Int) - (digitCount d : Int)
  if compareScaled 1 t x d == .gt then t - 1 else t

namespace Scientific

/-- The rounding interval of `m · 2^e` in quarters of `2^e`, over a common denominator:
`(low, value, high, denominator)`. -/
def interval (m : Nat) (e : Int) : Nat × Nat × Nat × Nat :=
  let lowGap := if m = Nat.pow 2 52 ∧ e > Binary.leastExponent then 1 else 2
  let scale (k : Nat) : Nat := if e - 2 ≥ 0 then k * Nat.pow 2 (e - 2).toNat else k
  let den := if e - 2 ≥ 0 then 1 else Nat.pow 2 (2 - e).toNat
  (scale (4 * m - lowGap), scale (4 * m), scale (4 * m + 2), den)

/-- The digit search for the interval `(low, high)` around `value`, all over `den`, with first
digit position `top`. Tries `n` significant digits, then more, for at most `fuel` rounds. -/
def search (low value high den : Nat) (inclusive : Bool) (top : Int) : Nat → Nat → Scientific
  | 0, n => ⟨toString (floorScaled value den (top - n + 1)), top⟩
  | fuel + 1, n =>
    let p := top - (n : Int) + 1
    let c := floorScaled value den p
    let down := if inclusive then compareScaled c p low den != .lt
      else compareScaled c p low den == .gt
    let up := if inclusive then compareScaled (c + 1) p high den != .gt
      else compareScaled (c + 1) p high den == .lt
    if down || up then
      let pastHalf := compareScaled (2 * c + 1) p (2 * value) den != .gt
      let chosen := if up && (!down || pastHalf) then c + 1 else c
      ⟨toString chosen, top⟩
    else search low value high den inclusive top fuel (n + 1)

/-- The shortest digits that read back as `m · 2^e` (`m > 0`), the nearest such if several. -/
def shortest (m : Nat) (e : Int) : Scientific :=
  let (low, value, high, den) := interval m e
  let inclusive := m % 2 == 0
  let t := floorLog10 high den
  let top := if !inclusive && compareScaled 1 t high den == .eq then t - 1 else t
  search low value high den inclusive top 20 1

/-- The digits written as `d₁.d₂…` (no point when there is one digit). -/
def mantissaText (s : Scientific) : String :=
  match s.digits.toList with
  | [] => ""
  | [d] => String.singleton d
  | d :: rest => String.singleton d ++ "." ++ String.ofList rest

/-- The decimal in positional notation, without a point when it is whole. -/
def positional (s : Scientific) : String :=
  let ds := s.digits.toList
  let n := ds.length
  if s.exponent ≥ 0 then
    let whole := (s.exponent + 1).toNat
    if n ≤ whole then String.ofList (ds ++ List.replicate (whole - n) '0')
    else String.ofList (ds.take whole) ++ "." ++ String.ofList (ds.drop whole)
  else "0." ++ String.ofList (List.replicate ((-s.exponent).toNat - 1) '0' ++ ds)

end Scientific

end DevstackConf.Decimal
