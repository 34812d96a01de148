/-!
# Doubles as sign, significand and binary exponent

A double is read off its 64 bits: one sign bit, eleven exponent bits and fifty-two fraction bits.
A finite double is `± m · 2^e` with `m < 2^53`; subnormals have exponent `-1074`, and a normal
double has the hidden bit `2^52` added to its fraction. All arithmetic on the parts is exact
arithmetic on natural numbers and integers.
-/

namespace DevstackConf.Decimal

/-- A double by kind: not a number, an infinity, or a finite value `± mantissa · 2^exponent`. -/
inductive Binary where
  /-- Not a number. -/
  | nan
  /-- An infinity of the given sign. -/
  | infinite (negative : Bool)
  /-- The finite value `± mantissa · 2^exponent`. -/
  | finite (negative : Bool) (mantissa : Nat) (exponent : Int)
  deriving DecidableEq, Repr

namespace Binary

/-- The number of fraction bits of a double. -/
def fractionBits : Nat := 52

/-- The exponent of the least subnormal double, `2^-1074`. -/
def leastExponent : Int := -1074

/-- Splits 64 bits into the kind and parts of the double they encode. -/
def ofBits (bits : UInt64) : Binary :=
  let n := bits.toNat
  let negative := n ≥ Nat.pow 2 63
  let field : Nat := (n / Nat.pow 2 52) % Nat.pow 2 11
  let fraction := n % Nat.pow 2 52
  if field = 2047 then
    if fraction = 0 then .infinite negative else .nan
  else if field = 0 then .finite negative fraction leastExponent
  else .finite negative (fraction + Nat.pow 2 52) ((field : Int) - 1075)

/-- The parts of a double. -/
def ofFloat (x : Float) : Binary := ofBits x.toBits

/-- Whether the value is a nonzero finite number or not a number: the values that count as
true. Zeros of either sign count as false. -/
def isNonzero : Binary → Bool
  | .nan => true
  | .infinite _ => true
  | .finite _ m _ => m != 0

/-- Whether a finite value is a whole number. -/
def isWhole : Binary → Bool
  | .finite _ m e => if e ≥ 0 then true else m % Nat.pow 2 (-e).toNat == 0
  | _ => false

/-- The bits of a finite double given a sign, a significand below `2^53` and a biased exponent
field: a field of zero is a subnormal. -/
def encode (negative : Bool) (field fraction : Nat) : UInt64 :=
  UInt64.ofNat ((if negative then Nat.pow 2 63 else 0) + field * Nat.pow 2 52 + fraction)

end Binary

end DevstackConf.Decimal
