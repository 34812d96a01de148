/-!
# Decoding UTF-8 bytes

`decodeLossy` turns bytes into text, replacing each ill-formed part by U+FFFD. An ill-formed
part is the longest prefix of a would-be sequence that could still have been completed: a lead
byte together with the continuation bytes accepted after it, or a single byte that can start no
sequence. This is the "maximal subpart" practice of the Unicode standard.

`decode?` accepts well-formed input only.
-/

namespace DevstackConf.Text

/-- The length a lead byte announces: 1 for ASCII, 2 to 4 for valid lead bytes, 0 otherwise. -/
def leadWidth (b : UInt8) : Nat :=
  if b < 0x80 then 1
  else if 0xC2 ≤ b && b ≤ 0xDF then 2
  else if 0xE0 ≤ b && b ≤ 0xEF then 3
  else if 0xF0 ≤ b && b ≤ 0xF4 then 4
  else 0

/-- Whether `b` may follow the lead byte `lead` as the first continuation byte. The ranges
exclude overlong forms, surrogates and values beyond U+10FFFF. -/
def secondFits (lead b : UInt8) : Bool :=
  if lead = 0xE0 then 0xA0 ≤ b && b ≤ 0xBF
  else if lead = 0xED then 0x80 ≤ b && b ≤ 0x9F
  else if lead = 0xF0 then 0x90 ≤ b && b ≤ 0xBF
  else if lead = 0xF4 then 0x80 ≤ b && b ≤ 0x8F
  else 0x80 ≤ b && b ≤ 0xBF

/-- Whether `b` is a continuation byte. -/
def isContinuation (b : UInt8) : Bool := 0x80 ≤ b && b ≤ 0xBF

/-- The code point of a well-formed sequence. -/
def codePoint (lead : UInt8) (rest : List UInt8) : Nat :=
  let init := match rest.length with
    | 1 => lead.toNat % 0x20
    | 2 => lead.toNat % 0x10
    | _ => lead.toNat % 0x08
  rest.foldl (fun acc b => acc * 64 + b.toNat % 64) init

/-- The well-formed sequence at the front of `bs`, as its code point and the remaining bytes;
otherwise the number of bytes of the ill-formed part there (at least one). -/
def front : List UInt8 → Sum (Nat × List UInt8) Nat
  | [] => .inr 0
  | b :: rest =>
    let w := leadWidth b
    if w = 1 then .inl (b.toNat, rest)
    else if w = 0 then .inr 1
    else
      match rest with
      | [] => .inr 1
      | c :: rest' =>
        if !secondFits b c then .inr 1
        else if w = 2 then .inl (codePoint b [c], rest')
        else
          match rest' with
          | [] => .inr 2
          | d :: rest'' =>
            if !isContinuation d then .inr 2
            else if w = 3 then .inl (codePoint b [c, d], rest'')
            else
              match rest'' with
              | [] => .inr 3
              | e :: rest''' =>
                if !isContinuation e then .inr 3
                else .inl (codePoint b [c, d, e], rest''')

/-- Decodes bytes, replacing each ill-formed part by U+FFFD. -/
def decodeLossy (bs : List UInt8) : String :=
  String.ofList (go bs.length bs [])
where
  /-- Decodes with at most `fuel` steps; each step consumes at least one byte. -/
  go : Nat → List UInt8 → List Char → List Char
    | 0, _, acc => acc.reverse
    | fuel + 1, bs, acc =>
      match bs with
      | [] => acc.reverse
      | _ =>
        match front bs with
        | .inl (cp, rest) => go fuel rest (Char.ofNat cp :: acc)
        | .inr n => go fuel (bs.drop (max n 1)) ('�' :: acc)

/-- Decodes well-formed UTF-8; nothing if any part is ill-formed. -/
def decode? (bs : List UInt8) : Option String :=
  go bs.length bs []
where
  /-- Decodes with at most `fuel` steps; each step consumes at least one byte. -/
  go : Nat → List UInt8 → List Char → Option String
    | 0, _, acc => some (String.ofList acc.reverse)
    | fuel + 1, bs, acc =>
      match bs with
      | [] => some (String.ofList acc.reverse)
      | _ =>
        match front bs with
        | .inl (cp, rest) => go fuel rest (Char.ofNat cp :: acc)
        | .inr _ => none

end DevstackConf.Text
