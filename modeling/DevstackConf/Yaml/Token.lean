/-!
# YAML tokens, positions and reading problems

A position in a YAML text counts characters from the start, and lines and columns from zero.
Tokens carry the positions where they start and end. A problem found while reading names what
went wrong and where, and, when it helps, what was being read and where that began.

A problem is written `problem at line L column C` (one-based), or `problem at position N` for a
problem found while decoding the text (with the byte offset `N`), followed by
`, context at line L column C` when there is a context. A position at the very start is not
written, and a context position is written only when it differs from the problem's.
-/

namespace DevstackConf.Yaml

/-- A position in a text: UTF-8 bytes from the start, line and column, all from zero. -/
structure Mark where
  /-- Bytes before the position, so that a character counts as many as its UTF-8 encoding has:
  the limit on the length of a simple key is measured in these. -/
  index : Nat := 0
  /-- The line, from zero. -/
  line : Nat := 0
  /-- The column, from zero. -/
  column : Nat := 0
  deriving DecidableEq, Repr, Inhabited

namespace Mark

/-- Whether the position is the very start of the text. -/
def isStart (m : Mark) : Bool := m.line == 0 && m.column == 0

/-- `line L column C`, one-based; the start of the text is `position N`. -/
def text (m : Mark) : String :=
  if m.isStart then "position " ++ toString m.index
  else "line " ++ toString (m.line + 1) ++ " column " ++ toString (m.column + 1)

end Mark

/-- A problem found while reading a YAML text. -/
structure Problem where
  /-- What went wrong. -/
  problem : String
  /-- Where it went wrong. -/
  mark : Mark := {}
  /-- For problems found while decoding the text: the byte offset. -/
  offset : Nat := 0
  /-- What was being read when it went wrong, and where that began. -/
  context : Option (String × Mark) := none
  deriving DecidableEq, Repr, Inhabited

namespace Problem

/-- The text of a problem; see the module note. -/
def message (p : Problem) : String :=
  let located :=
    if !p.mark.isStart then p.problem ++ " at " ++ p.mark.text
    else if p.offset != 0 then p.problem ++ " at position " ++ toString p.offset
    else p.problem
  match p.context with
  | none => located
  | some (ctx, m) =>
    if !m.isStart && (m.line != p.mark.line || m.column != p.mark.column) then
      located ++ ", " ++ ctx ++ " at " ++ m.text
    else located ++ ", " ++ ctx

end Problem

/-- How a scalar was written. -/
inductive ScalarStyle where
  /-- Without quotes. -/
  | plain
  /-- Between single quotes. -/
  | singleQuoted
  /-- Between double quotes. -/
  | doubleQuoted
  /-- As a literal block (`|`). -/
  | literal
  /-- As a folded block (`>`). -/
  | folded
  deriving DecidableEq, Repr, Inhabited

/-- A resolved tag. A tag is bytes, since a `%XX` escape may spell any octet, and it ends at its
first zero byte, which is where the readers of a tag stop. -/
structure Tag where
  /-- The bytes of the tag, none of them zero. -/
  bytes : List UInt8
  deriving DecidableEq, Repr, Inhabited

namespace Tag

/-- The tag spelled by `bs`, up to its first zero byte. -/
def ofBytes (bs : List UInt8) : Tag := ⟨bs.takeWhile (· != 0)⟩

/-- The tag spelled by a text. -/
def ofString (s : String) : Tag := ofBytes s.toUTF8.toList

/-- Whether the tag is local: it starts with `!`. -/
def isLocal (t : Tag) : Bool := t.bytes.head? == some 33

end Tag

/-- What a token is. -/
inductive TokenKind where
  | streamStart
  | streamEnd
  | versionDirective (major minor : Nat)
  | tagDirective (handle : String) (tagPrefix : List UInt8)
  | documentStart
  | documentEnd
  | blockSequenceStart
  | blockMappingStart
  | blockEnd
  | flowSequenceStart
  | flowSequenceEnd
  | flowMappingStart
  | flowMappingEnd
  | blockEntry
  | flowEntry
  | key
  | value
  | alias (name : String)
  | anchor (name : String)
  | tag (handle : String) (suffix : List UInt8)
  | scalar (text : String) (style : ScalarStyle)
  deriving DecidableEq, Repr, Inhabited

/-- A token with the positions where it starts and ends. -/
structure Token where
  /-- What the token is. -/
  kind : TokenKind
  /-- Where it starts. -/
  start : Mark
  /-- Where it ends. -/
  stop : Mark
  deriving DecidableEq, Repr, Inhabited

end DevstackConf.Yaml
