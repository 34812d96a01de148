import DevstackConf.Decimal.Significand

/-!
# Scalar values

A job parameter's value is a scalar: a boolean, a signed or unsigned 64-bit integer, a double, a
string or null. Every scalar has a text (`Scalar.display`), which is what the rendered
configuration file contains, a truth value, and possibly a switch reading ("yes", "off", …).

The text of a double follows the shortest digits that read back. Exponents below `-4` or from
`16` up are written in scientific form with a signed exponent of at least two digits; a whole
value otherwise keeps one decimal place (`1.0`, `-0.0`), and any other value is written
positionally.
-/

namespace DevstackConf

/-- A scalar parameter value. -/
inductive Scalar where
  /-- A boolean. -/
  | bool (b : Bool)
  /-- An integer that fits in a signed 64-bit word. -/
  | int (i : Int64)
  /-- An integer above the signed 64-bit range that fits in an unsigned word. -/
  | uint (u : UInt64)
  /-- A double. -/
  | float (x : Float)
  /-- A string. -/
  | str (s : String)
  /-- No value. -/
  | null

namespace Scalar

/-- The truth of a value: false for `false`, zero integers, zeros of either sign, the empty
string and null; true otherwise, including for not-a-number. -/
def truthy : Scalar → Bool
  | bool b => b
  | int i => i != 0
  | uint u => u != 0
  | float x => (Decimal.Binary.ofFloat x).isNonzero
  | str s => !s.isEmpty
  | null => false

/-- The boolean of a boolean value. -/
def asBool? : Scalar → Option Bool
  | bool b => some b
  | _ => none

/-- The words that switch a setting on. -/
def onWords : List String := ["yes", "Yes", "YES", "on", "On", "ON", "true", "True", "TRUE"]

/-- The words that switch a setting off. -/
def offWords : List String := ["no", "No", "NO", "off", "Off", "OFF", "false", "False", "FALSE"]

/-- A value read as an on/off switch: a boolean, or a string that is one of the switch words. -/
def switch? : Scalar → Option Bool
  | bool b => some b
  | str s => if onWords.contains s then some true else if offWords.contains s then some false
    else none
  | _ => none

/-- The text of a double; see the module note. -/
def floatText (x : Float) : String :=
  match Decimal.Binary.ofFloat x with
  | .nan => "nan"
  | .infinite negative => if negative then "-inf" else "inf"
  | b@(.finite negative m e) =>
    let sign := if negative then "-" else ""
    if m = 0 then sign ++ "0.0"
    else
      let s := Decimal.Scientific.shortest m e
      if s.exponent < -4 || s.exponent ≥ 16 then
        let expSign := if s.exponent < 0 then "-" else "+"
        let expDigits := toString s.exponent.natAbs
        let expDigits := if expDigits.length < 2 then "0" ++ expDigits else expDigits
        sign ++ s.mantissaText ++ "e" ++ expSign ++ expDigits
      else if b.isWhole then
        let whole := if e ≥ 0 then m * Nat.pow 2 e.toNat else m / Nat.pow 2 (-e).toNat
        sign ++ toString whole ++ ".0"
      else sign ++ s.positional

/-- The text of a value as it appears in a configuration file. -/
def display : Scalar → String
  | bool true => "True"
  | bool false => "False"
  | int i => toString i.toInt
  | uint u => toString u.toNat
  | float x => floatText x
  | str s => s
  | null => ""

/-- The scalar a number of a JSON text stands for, read as `Decimal.readJsonNumber?` reads it:
a whole number is a signed integer if it fits in 64 bits, else an unsigned one; every other
number is a double. -/
def ofNumberText? (text : String) : Option Scalar :=
  (Decimal.readJsonNumber? text).map fun
    | .whole false n => if n < Nat.pow 2 63 then int (Int64.ofNat n) else uint (UInt64.ofNat n)
    | .whole true n => int (Int64.ofInt (-(n : Int)))
    | .double x => float x

end Scalar

end DevstackConf
