/-!
# JSON output

The command line prints its machine-readable answers as indented JSON: two spaces per level,
one element or entry per line, `[]` and `{}` for empty collections, and `": "` between a key and
its value. Strings escape `"` and `\`, write the usual short escapes for backspace, form feed,
line feed, carriage return and tab, write other control characters as `\u00XX` with lowercase
hexadecimal digits, and keep every other character as it is.
-/

namespace DevstackConf.Text

/-- A JSON value of the kinds the command line prints. -/
inductive JsonValue where
  | null
  | str (s : String)
  | arr (xs : List JsonValue)
  | obj (entries : List (String × JsonValue))
  deriving Inhabited

/-- A lowercase hexadecimal digit. -/
def hexDigitChar (n : Nat) : Char :=
  if n < 10 then Char.ofNat ('0'.toNat + n) else Char.ofNat ('a'.toNat + n - 10)

/-- How one character is written inside a JSON string. -/
def jsonEscapeChar (c : Char) : String :=
  if c = '"' then "\\\""
  else if c = '\\' then "\\\\"
  else if c = '\n' then "\\n"
  else if c = '\r' then "\\r"
  else if c = '\t' then "\\t"
  else if c.toNat = 8 then "\\b"
  else if c.toNat = 12 then "\\f"
  else if c.toNat < 0x20 then
    "\\u00" ++ String.singleton (hexDigitChar (c.toNat / 16)) ++
      String.singleton (hexDigitChar (c.toNat % 16))
  else c.toString

/-- A JSON string literal. -/
def jsonString (s : String) : String := "\"" ++ String.join (s.toList.map jsonEscapeChar) ++ "\""

/-- Two spaces per level. -/
def indentation (level : Nat) : String := String.ofList (List.replicate (2 * level) ' ')

namespace JsonValue

mutual

/-- The indented text of a value whose first line is already indented to `level`. -/
def pretty (level : Nat) : JsonValue → String
  | null => "null"
  | str s => jsonString s
  | arr [] => "[]"
  | arr xs => "[\n" ++ ",\n".intercalate (elementLines level xs) ++ "\n" ++ indentation level ++ "]"
  | obj [] => "\x7b\x7d"
  | obj entries =>
    "\x7b\n" ++ ",\n".intercalate (entryLines level entries) ++ "\n" ++ indentation level ++ "\x7d"

/-- The lines of the elements of an array at `level`. -/
def elementLines (level : Nat) : List JsonValue → List String
  | [] => []
  | x :: rest => (indentation (level + 1) ++ pretty (level + 1) x) :: elementLines level rest

/-- The lines of the entries of an object at `level`. -/
def entryLines (level : Nat) : List (String × JsonValue) → List String
  | [] => []
  | (k, v) :: rest =>
    (indentation (level + 1) ++ jsonString k ++ ": " ++ pretty (level + 1) v) ::
      entryLines level rest

end

end JsonValue

end DevstackConf.Text
