import DevstackConf.Decimal.Nearest
import DevstackConf.Text.Escape
import DevstackConf.Yaml.Document

/-!
# What a scalar stands for

A plain scalar without a tag is read by the YAML 1.2 core rules: the empty text and `~`,
`null`, `Null`, `NULL` are null; `true`, `True`, `TRUE`, `false`, `False`, `FALSE` are
booleans; then integers (decimal, or `0x`, `0o`, `0b` with an optional sign), first as 64-bit
unsigned, then signed, then as 128-bit wide integers; then doubles, including `.inf`, `-.inf`
and `.nan`. Decimal digits with a leading zero (`012`) are text, never a number. Anything else
is text.

A tag from the core schema forces a reading (`!!bool`, `!!int`, `!!float`, `!!null`) and the
text must then fit it. A local tag (`!name`) on a plain scalar leaves the plain reading; any
other tag, and any quoted or block scalar, is text.

The texts here describe values in messages, as in integer `5` or string "a".
-/

namespace DevstackConf.Yaml

/-- The standard tag of booleans. -/
def boolTag : Tag := .ofString "tag:yaml.org,2002:bool"

/-- The standard tag of integers. -/
def intTag : Tag := .ofString "tag:yaml.org,2002:int"

/-- The standard tag of doubles. -/
def floatTag : Tag := .ofString "tag:yaml.org,2002:float"

/-- The standard tag of null. -/
def nullTag : Tag := .ofString "tag:yaml.org,2002:null"

/-- The value of a scalar. -/
inductive Resolved where
  | unit
  | bool (b : Bool)
  /-- An integer from `0` to `2^64 - 1`. -/
  | unsigned (n : Nat)
  /-- An integer from `-2^63` to `2^63 - 1`, read as signed. -/
  | signed (n : Int)
  /-- An integer beyond 64 bits that fits in 128; `negative` for the signed reading. -/
  | wide (n : Int) (negative : Bool)
  | float (x : Float)
  | text (s : String)

/-- Whether the text is one of the null words. -/
def isNullWord (v : String) : Bool := v == "~" || v == "null" || v == "Null" || v == "NULL"

/-- The boolean a text names. -/
def boolWord? (v : String) : Option Bool :=
  if v == "true" || v == "True" || v == "TRUE" then some true
  else if v == "false" || v == "False" || v == "FALSE" then some false
  else none

/-- Whether the text, less one sign, is a zero followed by one or more decimal digits. -/
def leadingZeroDigits (v : String) : Bool :=
  let cs := match v.toList with
    | '-' :: rest => rest
    | '+' :: rest => rest
    | cs => cs
  match cs with
  | '0' :: rest => !rest.isEmpty && rest.all Char.isDigit
  | _ => false

/-- The value of a digit in a radix up to 36, letters in either case. -/
def digitIn (radix : Nat) (c : Char) : Option Nat :=
  let v :=
    if c.isDigit then c.toNat - '0'.toNat
    else if 'a' ≤ c && c ≤ 'z' then c.toNat - 'a'.toNat + 10
    else if 'A' ≤ c && c ≤ 'Z' then c.toNat - 'A'.toNat + 10
    else radix
  if v < radix then some v else none

/-- Reads an integer in a radix: an optional `+` (or `-` when `signed`) and at least one digit. -/
def readRadix (radix : Nat) (signed : Bool) (v : String) : Option Int :=
  let (negative, ds) := match v.toList with
    | '+' :: rest => (false, rest)
    | '-' :: rest => if signed then (true, rest) else (false, '-' :: rest)
    | cs => (false, cs)
  if ds.isEmpty then none
  else
    match ds.mapM (digitIn radix) with
    | none => none
    | some vals =>
      let n : Int := vals.foldl (fun (acc : Int) (d : Nat) => acc * radix + d) 0
      some (if negative then -n else n)

/-- The text without its first character. -/
def dropFirst (v : String) : String := String.ofList (v.toList.drop 1)

/-- A reading of integers: the unsigned or signed range of a bit width. -/
structure IntReading where
  /-- Whether negative values are allowed. -/
  signed : Bool
  /-- The bit width. -/
  bits : Nat

namespace IntReading

/-- Whether `n` is in range. -/
def fits (r : IntReading) (n : Int) : Bool :=
  if r.signed then -Int.pow 2 (r.bits - 1) ≤ n && n < Int.pow 2 (r.bits - 1)
  else 0 ≤ n && n < Int.pow 2 r.bits

/-- Reads `v` in a radix and keeps it if it is in range. -/
def read (r : IntReading) (radix : Nat) (v : String) : Option Int :=
  (readRadix radix r.signed v).filter r.fits

end IntReading

/-- The radixes written with a prefix after a leading zero. -/
def radixPrefixes : List (String × Nat) := [("0x", 16), ("0o", 8), ("0b", 2)]

/-- Reads a non-negative integer: one optional `+`, then a prefixed or a decimal number. A
prefix followed by a sign, or a second sign, rules the text out. -/
def unsignedInt? (r : IntReading) (v : String) : Option Int :=
  let unpositive := if v.startsWith "+" then dropFirst v else v
  let signed (s : String) := s.startsWith "+" || s.startsWith "-"
  let rec prefixed : List (String × Nat) → Option (Option Int)
    | [] => none
    | (p, radix) :: more =>
      if unpositive.startsWith p then
        let rest := String.ofList (unpositive.toList.drop p.length)
        if signed rest then some none
        else match r.read radix rest with
          | some n => some (some n)
          | none => prefixed more
      else prefixed more
  match prefixed radixPrefixes with
  | some result => result
  | none =>
    if signed unpositive || leadingZeroDigits v then none
    else r.read 10 unpositive

/-- Reads a negative (or any decimal) integer: `-0x`, `-0o`, `-0b` with digits, or decimal. -/
def negativeInt? (r : IntReading) (v : String) : Option Int :=
  let rec prefixed : List (String × Nat) → Option Int
    | [] => none
    | (p, radix) :: more =>
      if v.startsWith ("-" ++ p) then
        match r.read radix ("-" ++ String.ofList (v.toList.drop (p.length + 1))) with
        | some n => some n
        | none => prefixed more
      else prefixed more
  match prefixed radixPrefixes with
  | some n => some n
  | none => if leadingZeroDigits v then none else r.read 10 v

/-- Reads a double: one optional `+`, then `.inf` in three spellings, or `-.inf`, `.nan` in
three spellings (without a sign), or a finite number. -/
def floatWord? (v : String) : Option Float :=
  let u := if v.startsWith "+" then dropFirst v else v
  if v.startsWith "+" && (u.startsWith "+" || u.startsWith "-") then none
  else if u == ".inf" || u == ".Inf" || u == ".INF" then some (Decimal.infinity false)
  else if v == "-.inf" || v == "-.Inf" || v == "-.INF" then some (Decimal.infinity true)
  else if v == ".nan" || v == ".NaN" || v == ".NAN" then some (0.0 / 0.0)
  else match Decimal.parse? u with
    | some x => if x.isFinite then some x else none
    | none => none

/-- An integer by the four readings in turn: 64-bit unsigned, signed, then 128-bit. -/
def integer? (v : String) : Option Resolved :=
  match unsignedInt? ⟨false, 64⟩ v with
  | some n => some (.unsigned n.toNat)
  | none =>
    match negativeInt? ⟨true, 64⟩ v with
    | some n => some (.signed n)
    | none =>
      match unsignedInt? ⟨false, 128⟩ v with
      | some n => some (.wide n false)
      | none => (negativeInt? ⟨true, 128⟩ v).map fun n => .wide n true

/-- The value of a plain scalar without a tag. -/
def plainValue (v : String) : Resolved :=
  if v.isEmpty || isNullWord v then .unit
  else match boolWord? v with
    | some b => .bool b
    | none =>
      match integer? v with
      | some r => r
      | none =>
        match (if leadingZeroDigits v then none else floatWord? v) with
        | some x => .float x
        | none => .text v

/-- `string "…"`, the text escaped. -/
def stringWords (v : String) : String := "string " ++ Text.quote v

/-- The message of a value that does not fit what was expected. -/
def invalidValue (unexpected expected : String) : String :=
  "invalid value: " ++ unexpected ++ ", expected " ++ expected

/-- The message of a value of the wrong kind. -/
def invalidType (unexpected expected : String) : String :=
  "invalid type: " ++ unexpected ++ ", expected " ++ expected

/-- The value of a scalar given its tag and style, or the message of a text that does not fit
its tag. -/
def resolveScalar (tag : Option Tag) (v : String) (style : ScalarStyle) :
    Except String Resolved :=
  match tag with
  | some t =>
    if t == boolTag then
      match boolWord? v with
      | some b => .ok (.bool b)
      | none => .error (invalidValue (stringWords v) "a boolean")
    else if t == intTag then
      match integer? v with
      | some r => .ok r
      | none => .error (invalidValue (stringWords v) "an integer")
    else if t == floatTag then
      match floatWord? v with
      | some x => .ok (.float x)
      | none => .error (invalidValue (stringWords v) "a float")
    else if t == nullTag then
      if isNullWord v then .ok .unit else .error (invalidValue (stringWords v) "null")
    else if t.isLocal && style == .plain then .ok (plainValue v)
    else .ok (.text v)
  | none => if style == .plain then .ok (plainValue v) else .ok (.text v)

/-- A double in positional notation with at least one decimal: `1.0`, `0.001`, `NaN`, `inf`. -/
def floatWords (x : Float) : String :=
  match Decimal.Binary.ofFloat x with
  | .nan => "NaN"
  | .infinite negative => if negative then "-inf" else "inf"
  | .finite negative m e =>
    let sign := if negative then "-" else ""
    let digits := if m = 0 then "0" else (Decimal.Scientific.shortest m e).positional
    let text := sign ++ digits
    if text.contains '.' then text else text ++ ".0"

namespace Resolved

/-- How a value is described in a message. -/
def describe : Resolved → String
  | unit => "unit value"
  | bool b => "boolean \x60" ++ toString b ++ "\x60"
  | unsigned n => "integer \x60" ++ toString n ++ "\x60"
  | signed n => "integer \x60" ++ toString n ++ "\x60"
  | wide n negative =>
    "integer \x60" ++ toString n ++ "\x60 as " ++ (if negative then "i128" else "u128")
  | float x => "floating point \x60" ++ floatWords x ++ "\x60"
  | text s => stringWords s

end Resolved

end DevstackConf.Yaml
