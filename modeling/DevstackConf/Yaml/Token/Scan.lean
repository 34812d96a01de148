import DevstackConf.Yaml.Token
import DevstackConf.Text.Utf8

/-!
# Scanning YAML text into tokens

The scanner turns characters into tokens on demand. Indentation opens and closes block
collections, so the scanner keeps a stack of indentation columns and emits block-start and
block-end tokens as the column of each new token rises above or falls below them.

A mapping key without `?` (a *simple key*) is only known to be a key when the `:` after it is
found. The scanner therefore remembers, for each level of flow nesting, where a simple key could
have started; when a `:` arrives, a key token (and in block context a mapping-start token) is
inserted back into the queue at that place. A possible simple key lapses at the end of its line
or after 1024 characters; a lapsed key that was required (in block context, at the indentation
column) is an error. Tokens are released only when no remembered key could still be inserted
in front of them.

Scalars are scanned to their values here: quotes and escapes are resolved, and line breaks are
folded (a single break becomes a space, further breaks are kept). Text is checked up front:
control characters other than tab, line feed and carriage return are refused, with the byte
offset of the first one.

Every loop consumes at least one character per round, so each is bounded by the length of the
text plus one.
-/

namespace DevstackConf.Yaml

/-- A place where a simple key may have started. -/
structure SimpleKey where
  /-- Whether a key may still start here. -/
  possible : Bool := false
  /-- Whether a key must start here (block context, at the indentation column). -/
  required : Bool := false
  /-- The number of the token a key would be inserted before. -/
  tokenNumber : Nat := 0
  /-- Where the key would start. -/
  mark : Mark := {}
  deriving Inhabited

/-- The scanner's state. -/
structure Scanner where
  /-- The characters of the text. -/
  input : Array Char
  /-- The index of the next character. -/
  pos : Nat := 0
  /-- The position of the next character. -/
  mark : Mark := {}
  /-- Tokens scanned but not yet taken, first to be taken first. -/
  queue : List Token := []
  /-- The number of tokens taken so far. -/
  tokensParsed : Nat := 0
  /-- Whether the first queued token may be taken. -/
  tokenAvailable : Bool := false
  /-- Whether the stream-start token was produced. -/
  streamStartProduced : Bool := false
  /-- Whether the stream-end token was taken. -/
  streamEndProduced : Bool := false
  /-- The current indentation column; `-1` outside any block collection. -/
  indent : Int := -1
  /-- Enclosing indentation columns, innermost first. -/
  indents : List Int := []
  /-- Whether a simple key may start at the current position. -/
  simpleKeyAllowed : Bool := false
  /-- Possible simple keys, one per flow level, innermost first. -/
  simpleKeys : List SimpleKey := []
  /-- The depth of flow collections. -/
  flowLevel : Nat := 0
  deriving Inhabited

/-- Line breaks: carriage return, line feed, next line, line and paragraph separators. -/
def isBreak (c : Char) : Bool :=
  c = '\r' || c = '\n' || c = '\x85' || c = '\u2028' || c = '\u2029'

/-- The end-of-text marker. -/
def eof : Char := '\x00'

/-- A line break or the end of the text. -/
def isBreakOrEnd (c : Char) : Bool := isBreak c || c = eof

/-- A space or tab. -/
def isBlank (c : Char) : Bool := c = ' ' || c = '\t'

/-- A space, tab, line break or the end of the text. -/
def isBlankOrEnd (c : Char) : Bool := isBlank c || isBreakOrEnd c

/-- An ASCII letter, digit, underscore or hyphen. -/
def isWord (c : Char) : Bool := c.isAlphanum || c = '_' || c = '-'

/-- A hexadecimal digit. -/
def isHex (c : Char) : Bool := c.isDigit || ('a' ≤ c && c ≤ 'f') || ('A' ≤ c && c ≤ 'F')

/-- The value of a hexadecimal digit. -/
def hexValue (c : Char) : Nat :=
  if c.isDigit then c.toNat - '0'.toNat
  else if 'a' ≤ c && c ≤ 'f' then c.toNat - 'a'.toNat + 10
  else c.toNat - 'A'.toNat + 10

/-- Characters a text may hold: tab, line feed, carriage return, printable ASCII, next line, and
the rest of Unicode except surrogates and the two non-characters at the end of the first plane. -/
def isAllowed (c : Char) : Bool :=
  let v := c.toNat
  v = 0x09 || v = 0x0A || v = 0x0D || (0x20 ≤ v && v ≤ 0x7E) || v = 0x85 ||
    (0xA0 ≤ v && v ≤ 0xD7FF) || (0xE000 ≤ v && v ≤ 0xFFFD) || (0x10000 ≤ v && v ≤ 0x10FFFF)

/-- The characters of a text, or the problem of the first character that is not allowed, with its
byte offset. A leading byte-order mark stays in the text: the text is known to be UTF-8, so the
mark is not read as an encoding sign, and the scanner passes over it only where a token may start
at column 0, which leaves every later mark on that line one column to the right. -/
def decodeText (text : String) : Except Problem (Array Char) :=
  let cs := text.toList
  let rec check : List Char → Nat → Except Problem Unit
    | [], _ => .ok ()
    | c :: rest, offset =>
      if isAllowed c then check rest (offset + c.utf8Size)
      else .error { problem := "control characters are not allowed", offset }
  match check cs 0 with
  | .error p => .error p
  | .ok () => .ok cs.toArray

namespace Scanner

/-- The character `k` places ahead, or the end marker. -/
def peekAt (s : Scanner) (k : Nat) : Char := s.input.getD (s.pos + k) eof

/-- The current character. -/
def cur (s : Scanner) : Char := s.peekAt 0

/-- The loop bound: one round per character, and one more. -/
def fuel (s : Scanner) : Nat := s.input.size + 1

/-- Moves past the current character. -/
def skip (s : Scanner) : Scanner :=
  { s with pos := s.pos + 1,
           mark := { s.mark with index := s.mark.index + s.cur.utf8Size,
                                 column := s.mark.column + 1 } }

/-- Moves past a line break (a carriage return and line feed count as one). -/
def skipLine (s : Scanner) : Scanner :=
  if s.cur = '\r' && s.peekAt 1 = '\n' then
    { s with pos := s.pos + 2, mark := ⟨s.mark.index + 2, s.mark.line + 1, 0⟩ }
  else if isBreak s.cur then
    { s with pos := s.pos + 1, mark := ⟨s.mark.index + s.cur.utf8Size, s.mark.line + 1, 0⟩ }
  else s

/-- Moves the current character into `acc`. -/
def read (s : Scanner) (acc : String) : Scanner × String := (s.skip, acc.push s.cur)

/-- Moves a line break into `acc`: carriage returns, line feeds and next-line characters become
a line feed; line and paragraph separators are kept. -/
def readLine (s : Scanner) (acc : String) : Scanner × String :=
  if isBreak s.cur then
    let c := s.cur
    (s.skipLine, acc.push (if c = '\u2028' || c = '\u2029' then c else '\n'))
  else (s, acc)

/-- Skips characters while `p` holds. -/
def skipWhile (p : Char → Bool) (s : Scanner) : Scanner := go s.fuel s
where
  /-- One character per round. -/
  go : Nat → Scanner → Scanner
    | 0, s => s
    | n + 1, s => if p s.cur then go n s.skip else s

/-- Moves characters into `acc` while `p` holds. -/
def readWhile (p : Char → Bool) (s : Scanner) (acc : String) : Scanner × String := go s.fuel s acc
where
  /-- One character per round. -/
  go : Nat → Scanner → String → Scanner × String
    | 0, s, acc => (s, acc)
    | n + 1, s, acc => if p s.cur then go n s.skip (acc.push s.cur) else (s, acc)

/-- Skips blanks, then a comment up to the end of the line. -/
def skipBlanksAndComment (s : Scanner) : Scanner :=
  let s := s.skipWhile isBlank
  if s.cur = '#' then s.skipWhile (!isBreakOrEnd ·) else s

/-- A problem at the current position, found while reading what began at `start`. -/
def fail (s : Scanner) (context : String) (start : Mark) (problem : String) : Problem :=
  { problem, mark := s.mark, context := some (context, start) }

/-- A problem at the current position without a context. -/
def failHere (s : Scanner) (problem : String) : Problem := { problem, mark := s.mark }

/-- Appends a token to the queue. -/
def enqueue (s : Scanner) (t : Token) : Scanner := { s with queue := s.queue ++ [t] }

/-- Inserts a token `i` places after the first queued one. -/
def insertToken (s : Scanner) (i : Nat) (t : Token) : Scanner :=
  { s with queue := s.queue.take i ++ t :: s.queue.drop i }

/-- The possible simple key of the innermost flow level. -/
def topKey (s : Scanner) : SimpleKey := s.simpleKeys.headD {}

/-- Replaces the possible simple key of the innermost flow level. -/
def setTopKey (s : Scanner) (k : SimpleKey) : Scanner :=
  match s.simpleKeys with
  | [] => s
  | _ :: rest => { s with simpleKeys := k :: rest }

/-- Lapses the possible simple keys that are no longer on the current line or are more than
1024 characters back; a lapsed required key is an error. -/
def staleSimpleKeys (s : Scanner) : Except Problem Scanner :=
  let rec go : List SimpleKey → Except Problem (List SimpleKey)
    | [] => .ok []
    | k :: ks =>
      if k.possible && (k.mark.line < s.mark.line || k.mark.index + 1024 < s.mark.index) then
        if k.required then
          .error (s.fail "while scanning a simple key" k.mark "could not find expected ':'")
        else (go ks).map ({ k with possible := false } :: ·)
      else (go ks).map (k :: ·)
  (go s.simpleKeys).map fun ks => { s with simpleKeys := ks }

/-- Drops the possible simple key of the innermost flow level; a required one is an error. -/
def removeSimpleKey (s : Scanner) : Except Problem Scanner :=
  let k := s.topKey
  if k.possible && k.required then
    .error (s.fail "while scanning a simple key" k.mark "could not find expected ':'")
  else .ok (s.setTopKey { k with possible := false })

/-- Remembers that a simple key may start here, if one may. -/
def saveSimpleKey (s : Scanner) : Except Problem Scanner :=
  if s.simpleKeyAllowed then
    let key : SimpleKey :=
      { possible := true,
        required := s.flowLevel == 0 && s.indent == (s.mark.column : Int),
        tokenNumber := s.tokensParsed + s.queue.length,
        mark := s.mark }
    (s.removeSimpleKey).map (·.setTopKey key)
  else .ok s

/-- Enters a flow collection. -/
def increaseFlowLevel (s : Scanner) : Scanner :=
  { s with simpleKeys := {} :: s.simpleKeys, flowLevel := s.flowLevel + 1 }

/-- Leaves a flow collection. -/
def decreaseFlowLevel (s : Scanner) : Scanner :=
  if s.flowLevel > 0 then
    { s with flowLevel := s.flowLevel - 1, simpleKeys := s.simpleKeys.drop 1 }
  else s

/-- In block context, opens a block collection at `column` if it is deeper than the current
indentation: the start token goes to the end of the queue, or before token number `number`. -/
def rollIndent (s : Scanner) (column : Int) (number : Option Nat) (kind : TokenKind)
    (mark : Mark) : Scanner :=
  if s.flowLevel > 0 then s
  else if s.indent < column then
    let s := { s with indents := s.indent :: s.indents, indent := column }
    let t : Token := ⟨kind, mark, mark⟩
    match number with
    | none => s.enqueue t
    | some n => s.insertToken (n - s.tokensParsed) t
  else s

/-- In block context, closes every block collection deeper than `column`. -/
def unrollIndent (s : Scanner) (column : Int) : Scanner :=
  if s.flowLevel > 0 then s else go s.indents.length s
where
  /-- One closed collection per round. -/
  go : Nat → Scanner → Scanner
    | 0, s => s
    | n + 1, s =>
      if s.indent > column then
        let s := s.enqueue ⟨.blockEnd, s.mark, s.mark⟩
        match s.indents with
        | i :: rest => go n { s with indent := i, indents := rest }
        | [] => s
      else s

/-- Skips blanks, comments and line breaks up to the next token. Tabs are skipped only in flow
context or where no simple key may start; a line break in block context allows a simple key. -/
def scanToNextToken (s : Scanner) : Scanner := go s.fuel s
where
  /-- One line per round. -/
  go : Nat → Scanner → Scanner
    | 0, s => s
    | n + 1, s =>
      let s := if s.mark.column == 0 && s.cur = '\uFEFF' then s.skip else s
      let tabs := s.flowLevel > 0 || !s.simpleKeyAllowed
      let s := s.skipWhile fun c => c = ' ' || (tabs && c = '\t')
      let s := if s.cur = '#' then s.skipWhile (!isBreakOrEnd ·) else s
      if isBreak s.cur then
        let s := s.skipLine
        go n (if s.flowLevel == 0 then { s with simpleKeyAllowed := true } else s)
      else s

/-- Reads the digits of a version number (at most nine). -/
def scanVersionNumber (s : Scanner) (start : Mark) : Except Problem (Scanner × Nat) :=
  go 10 s 0 0
where
  /-- One digit per round. -/
  go : Nat → Scanner → Nat → Nat → Except Problem (Scanner × Nat)
    | 0, s, value, _ => .ok (s, value)
    | n + 1, s, value, length =>
      if s.cur.isDigit then
        if length + 1 > 9 then
          .error (s.fail "while scanning a %YAML directive" start
            "found extremely long version number")
        else go n s.skip (value * 10 + (s.cur.toNat - '0'.toNat)) (length + 1)
      else if length == 0 then
        .error (s.fail "while scanning a %YAML directive" start
          "did not find expected version number")
      else .ok (s, value)

/-- Reads a tag handle: `!`, then word characters, then possibly a closing `!`. -/
def scanTagHandle (s : Scanner) (directive : Bool) (start : Mark) :
    Except Problem (Scanner × String) :=
  if s.cur != '!' then
    .error (s.fail (if directive then "while scanning a tag directive" else "while scanning a tag")
      start "did not find expected '!'")
  else
    let (s, acc) := s.read ""
    let (s, acc) := s.readWhile isWord acc
    if s.cur = '!' then .ok (s.read acc)
    else if directive && acc != "!" then
      .error (s.fail "while parsing a tag directive" start "did not find expected '!'")
    else .ok (s, acc)

/-- Reads one `%`-escaped UTF-8 sequence of a tag. -/
def scanUriEscapes (s : Scanner) (directive : Bool) (start : Mark) :
    Except Problem (Scanner × List UInt8) :=
  go 4 s 0 []
where
  /-- One escaped byte per round. -/
  go : Nat → Scanner → Nat → List UInt8 → Except Problem (Scanner × List UInt8)
    | 0, s, _, acc => .ok (s, acc)
    | n + 1, s, width, acc =>
      let context := if directive then "while parsing a %TAG directive" else "while parsing a tag"
      if !(s.cur = '%' && isHex (s.peekAt 1) && isHex (s.peekAt 2)) then
        .error (s.fail context start "did not find URI escaped octet")
      else
        let octet := hexValue (s.peekAt 1) * 16 + hexValue (s.peekAt 2)
        let width' :=
          if width != 0 then width
          else if octet / 0x80 == 0 then 1
          else if octet / 0x20 == 0x06 then 2
          else if octet / 0x10 == 0x0E then 3
          else if octet / 0x08 == 0x1E then 4
          else 0
        if width' == 0 then .error (s.fail context start "found an incorrect leading UTF-8 octet")
        else if width != 0 && octet / 0x40 != 0x02 then
          .error (s.fail context start "found an incorrect trailing UTF-8 octet")
        else
          let s := s.skip.skip.skip
          let acc := acc ++ [UInt8.ofNat octet]
          if width' - 1 == 0 then .ok (s, acc) else go n s (width' - 1) acc

/-- Characters a tag may hold; flow indicators `,[]` only inside `!<…>`. -/
def isUriChar (verbatim : Bool) (c : Char) : Bool :=
  isWord c || ";/?:@&=+$.%!~*'()".contains c || (verbatim && ",[]".contains c)

/-- The UTF-8 bytes of a text. -/
def utf8Bytes (s : String) : List UInt8 := s.toUTF8.toList

/-- Reads the rest of a tag after `head` (whose leading `!` is dropped), as bytes: characters
by their UTF-8 encoding, escapes by the octets they spell. -/
def scanTagUri (s : Scanner) (verbatim directive : Bool) (head : String) (start : Mark) :
    Except Problem (Scanner × List UInt8) :=
  go s.fuel s (utf8Bytes (String.ofList (head.toList.drop 1))) head.length
where
  /-- One character or escape per round. -/
  go : Nat → Scanner → List UInt8 → Nat → Except Problem (Scanner × List UInt8)
    | 0, s, acc, _ => .ok (s, acc)
    | n + 1, s, acc, length =>
      if isUriChar verbatim s.cur then
        if s.cur = '%' then
          match s.scanUriEscapes directive start with
          | .error p => .error p
          | .ok (s, bytes) => go n s (acc ++ bytes) (length + 1)
        else go n s.skip (acc ++ utf8Bytes (String.singleton s.cur)) (length + 1)
      else if length == 0 then
        let context := if directive then "while parsing a %TAG directive" else "while parsing a tag"
        .error (s.fail context start "did not find expected tag URI")
      else .ok (s, acc)

/-- Reads a `%YAML` or `%TAG` directive and the rest of its line. -/
def scanDirective (s : Scanner) : Except Problem (Scanner × Token) := do
  let start := s.mark
  let s := s.skip
  let (s, name) := s.readWhile isWord ""
  if name.isEmpty then
    throw (s.fail "while scanning a directive" start "could not find expected directive name")
  if !isBlankOrEnd s.cur then
    throw (s.fail "while scanning a directive" start "found unexpected non-alphabetical character")
  let (s, kind) ←
    if name == "YAML" then do
      let s := s.skipWhile isBlank
      let (s, major) ← s.scanVersionNumber start
      if s.cur != '.' then
        throw (s.fail "while scanning a %YAML directive" start
          "did not find expected digit or '.' character")
      let (s, minor) ← s.skip.scanVersionNumber start
      pure (s, TokenKind.versionDirective major minor)
    else if name == "TAG" then do
      let s := s.skipWhile isBlank
      let (s, handle) ← s.scanTagHandle true start
      if !isBlank s.cur then
        throw (s.fail "while scanning a %TAG directive" start "did not find expected whitespace")
      let s := s.skipWhile isBlank
      let (s, tagPrefix) ← s.scanTagUri true true "" start
      if !isBlankOrEnd s.cur then
        throw (s.fail "while scanning a %TAG directive" start
          "did not find expected whitespace or line break")
      pure (s, TokenKind.tagDirective handle tagPrefix)
    else throw (s.fail "while scanning a directive" start "found unknown directive name")
  let stop := s.mark
  let s := s.skipBlanksAndComment
  if !isBreakOrEnd s.cur then
    throw (s.fail "while scanning a directive" start "did not find expected comment or line break")
  let s := if isBreak s.cur then s.skipLine else s
  return (s, ⟨kind, start, stop⟩)

/-- Reads an anchor `&name` or an alias `*name`. -/
def scanAnchor (s : Scanner) (isAnchor : Bool) : Except Problem (Scanner × Token) :=
  let start := s.mark
  let (s, name) := s.skip.readWhile isWord ""
  let stop := s.mark
  let c := s.cur
  if name.isEmpty || !(isBlankOrEnd c || "?:,]%@".contains c || c = '\x7d' || c = '\x60') then
    .error (s.fail (if isAnchor then "while scanning an anchor" else "while scanning an alias")
      start "did not find expected alphabetic or numeric character")
  else .ok (s, ⟨if isAnchor then .anchor name else .alias name, start, stop⟩)

/-- Reads a tag: `!<uri>`, `!handle!suffix`, `!suffix` or a lone `!`. -/
def scanTag (s : Scanner) : Except Problem (Scanner × Token) := do
  let start := s.mark
  let (s, handle, suffix) ←
    if s.peekAt 1 = '<' then do
      let (s, suffix) ← s.skip.skip.scanTagUri true false "" start
      if s.cur != '>' then
        throw (s.fail "while scanning a tag" start "did not find the expected '>'")
      pure (s.skip, "", suffix)
    else do
      let (s, handle) ← s.scanTagHandle false start
      if handle.length > 1 && handle.startsWith "!" && handle.endsWith "!" then
        let (s, suffix) ← s.scanTagUri false false "" start
        pure (s, handle, suffix)
      else
        let (s, suffix) ← s.scanTagUri false false handle start
        -- a suffix that is empty as read (up to a zero byte) is the tag `!` itself
        pure (if suffix.head?.getD 0 == 0 then (s, "", utf8Bytes "!") else (s, "!", suffix))
  if !isBlankOrEnd s.cur && (s.flowLevel == 0 || s.cur != ',') then
    throw (s.fail "while scanning a tag" start "did not find expected whitespace or line break")
  return (s, ⟨.tag handle suffix, start, s.mark⟩)

/-- What a block scalar's line breaks gather: the breaks, the indentation and the end. -/
structure BlockBreaks where
  /-- The scanner after the breaks. -/
  scanner : Scanner
  /-- The content indentation, once known (0 before). -/
  indent : Nat
  /-- The breaks gathered. -/
  breaks : String
  /-- Where the scalar ends so far. -/
  stop : Mark

/-- Skips indentation and gathers empty lines of a block scalar; fixes the indentation from the
deepest of them when it is not known yet. -/
def scanBlockBreaks (s : Scanner) (indent : Nat) (breaks : String) (start : Mark) :
    Except Problem BlockBreaks :=
  go s.fuel s breaks s.mark 0
where
  /-- One line per round. -/
  go : Nat → Scanner → String → Mark → Nat → Except Problem BlockBreaks
    | 0, s, breaks, stop, _ => .ok ⟨s, indent, breaks, stop⟩
    | n + 1, s, breaks, stop, maxIndent =>
      let s := skipIndent s
      let maxIndent := max maxIndent s.mark.column
      if (indent == 0 || s.mark.column < indent) && s.cur = '\t' then
        .error (s.fail "while scanning a block scalar" start
          "found a tab character where an indentation space is expected")
      else if !isBreak s.cur then
        let found : Int := max (max (maxIndent : Int) (s.indent + 1)) 1
        .ok ⟨s, if indent == 0 then found.toNat else indent, breaks, stop⟩
      else
        let (s, breaks) := s.readLine breaks
        go n s breaks s.mark maxIndent
  /-- Skips indentation spaces up to the content column. -/
  skipIndent (s : Scanner) : Scanner := skipSpaces s.fuel s
  /-- One space per round. -/
  skipSpaces : Nat → Scanner → Scanner
    | 0, s => s
    | n + 1, s =>
      if (indent == 0 || s.mark.column < indent) && s.cur = ' ' then skipSpaces n s.skip else s

/-- The text of a block scalar while it is read. -/
structure BlockText where
  text : String := ""
  leadingBreak : String := ""
  trailingBreaks : String := ""
  leadingBlank : Bool := false

/-- Reads a literal (`|`) or folded (`>`) block scalar. -/
def scanBlockScalar (s : Scanner) (literal : Bool) : Except Problem (Scanner × Token) := do
  let start := s.mark
  let s := s.skip
  let context := "while scanning a block scalar"
  let zeroIndent := "found an indentation indicator equal to 0"
  let (s, chomping, increment) ←
    if s.cur = '+' || s.cur = '-' then do
      let chomping : Int := if s.cur = '+' then 1 else -1
      let s := s.skip
      if s.cur.isDigit then
        if s.cur = '0' then throw (s.fail context start zeroIndent)
        pure (s.skip, chomping, s.cur.toNat - '0'.toNat)
      else pure (s, chomping, 0)
    else if s.cur.isDigit then do
      if s.cur = '0' then throw (s.fail context start zeroIndent)
      let increment := s.cur.toNat - '0'.toNat
      let s := s.skip
      if s.cur = '+' || s.cur = '-' then
        pure (s.skip, if s.cur = '+' then (1 : Int) else -1, increment)
      else pure (s, 0, increment)
    else pure (s, 0, 0)
  let s := s.skipBlanksAndComment
  if !isBreakOrEnd s.cur then
    throw (s.fail context start "did not find expected comment or line break")
  let s := if isBreak s.cur then s.skipLine else s
  let indent : Nat :=
    if increment > 0 then
      if s.indent ≥ 0 then s.indent.toNat + increment else increment
    else 0
  let b ← s.scanBlockBreaks indent "" start
  let rec body : Nat → BlockBreaks → BlockText → Except Problem (BlockBreaks × BlockText)
    | 0, b, t => .ok (b, t)
    | n + 1, b, t =>
      let s := b.scanner
      if s.mark.column == b.indent && s.cur != eof then
        let trailingBlank := isBlank s.cur
        let t :=
          if !literal && t.leadingBreak.startsWith "\n" && !t.leadingBlank && !trailingBlank then
            { t with text := if b.breaks.isEmpty then t.text.push ' ' else t.text,
                     leadingBreak := "" }
          else { t with text := t.text ++ t.leadingBreak, leadingBreak := "" }
        let t := { t with text := t.text ++ b.breaks, leadingBlank := isBlank s.cur }
        let (s, text) := s.readWhile (!isBreakOrEnd ·) t.text
        let (s, leadingBreak) := s.readLine ""
        match s.scanBlockBreaks b.indent "" start with
        | .error p => .error p
        | .ok b' => body n b' { t with text, leadingBreak }
      else .ok (b, t)
  let (b, t) ← body b.scanner.fuel b {}
  let text := if chomping != -1 then t.text ++ t.leadingBreak else t.text
  let text := if chomping == 1 then text ++ b.breaks else text
  return (b.scanner, ⟨.scalar text (if literal then .literal else .folded), start, b.stop⟩)

/-- The text of a flow or plain scalar while it is read, with the blanks and breaks pending. -/
structure Folding where
  /-- The text read so far. -/
  text : String := ""
  /-- The first line break of the pending run. -/
  leadingBreak : String := ""
  /-- The further line breaks of the pending run. -/
  trailingBreaks : String := ""
  /-- The blanks of the pending run, when it holds no line break. -/
  whitespaces : String := ""
  /-- Whether the pending run holds a line break. -/
  leadingBlanks : Bool := false

namespace Folding

/-- Takes a blank: pending while no line break has been met, else indentation and dropped. -/
def blank (f : Folding) (c : Char) : Folding :=
  if f.leadingBlanks then f else { f with whitespaces := f.whitespaces.push c }

/-- Joins the pending blanks: after a line break, a single break becomes a space and further
breaks are kept; otherwise the blanks are kept as they were. -/
def join (f : Folding) : Folding :=
  if f.leadingBlanks then
    if f.leadingBreak.startsWith "\n" then
      if f.trailingBreaks.isEmpty then { f with text := f.text.push ' ', leadingBreak := "" }
      else { f with text := f.text ++ f.trailingBreaks, trailingBreaks := "", leadingBreak := "" }
    else
      { f with text := f.text ++ f.leadingBreak ++ f.trailingBreaks,
               leadingBreak := "", trailingBreaks := "" }
  else { f with text := f.text ++ f.whitespaces, whitespaces := "" }

end Folding

/-- Gathers blanks and line breaks into the pending part of a scalar. For plain scalars a tab in
the indentation of a continuation line is refused. -/
def scanBlanks (s : Scanner) (f : Folding) (tabLimit : Option Int) (start : Mark) :
    Except Problem (Scanner × Folding) :=
  go s.fuel s f
where
  /-- One blank or break per round. -/
  go : Nat → Scanner → Folding → Except Problem (Scanner × Folding)
    | 0, s, f => .ok (s, f)
    | n + 1, s, f =>
      if isBlank s.cur then
        match tabLimit with
        | some indent =>
          if f.leadingBlanks && (s.mark.column : Int) < indent && s.cur = '\t' then
            .error (s.fail "while scanning a plain scalar" start
              "found a tab character that violates indentation")
          else go n s.skip (f.blank s.cur)
        | none =>
          go n s.skip (f.blank s.cur)
      else if isBreak s.cur then
        if f.leadingBlanks then
          let (s, trailingBreaks) := s.readLine f.trailingBreaks
          go n s { f with trailingBreaks }
        else
          let (s, leadingBreak) := s.readLine f.leadingBreak
          go n s { f with whitespaces := "", leadingBreak, leadingBlanks := true }
      else .ok (s, f)

/-- Whether a document marker `---` or `...` followed by a blank starts at the current column 0. -/
def atDocumentMarker (s : Scanner) : Bool :=
  s.mark.column == 0 &&
    ((s.cur = '-' && s.peekAt 1 = '-' && s.peekAt 2 = '-') ||
     (s.cur = '.' && s.peekAt 1 = '.' && s.peekAt 2 = '.')) &&
    isBlankOrEnd (s.peekAt 3)

/-- The character a `\` escape stands for, or the number of hexadecimal digits that follow. -/
def escapeOf (c : Char) : Option (Sum Char Nat) :=
  match c with
  | '0' => some (.inl '\x00')
  | 'a' => some (.inl '\x07')
  | 'b' => some (.inl '\x08')
  | 't' => some (.inl '\t')
  | '\t' => some (.inl '\t')
  | 'n' => some (.inl '\n')
  | 'v' => some (.inl '\x0B')
  | 'f' => some (.inl '\x0C')
  | 'r' => some (.inl '\r')
  | 'e' => some (.inl '\x1B')
  | ' ' => some (.inl ' ')
  | '"' => some (.inl '"')
  | '/' => some (.inl '/')
  | '\\' => some (.inl '\\')
  | 'N' => some (.inl '\x85')
  | '_' => some (.inl '\xA0')
  | 'L' => some (.inl '\u2028')
  | 'P' => some (.inl '\u2029')
  | 'x' => some (.inr 2)
  | 'u' => some (.inr 4)
  | 'U' => some (.inr 8)
  | _ => none

/-- Reads the non-blank characters of a quoted scalar's line, resolving escapes. Stops at the
closing quote, at a blank, or after an escaped line break (then reporting leading blanks). -/
def scanQuotedRun (s : Scanner) (single : Bool) (start : Mark) (text : String) :
    Except Problem (Scanner × String × Bool) :=
  go s.fuel s text
where
  /-- One character or escape per round. -/
  go : Nat → Scanner → String → Except Problem (Scanner × String × Bool)
    | 0, s, text => .ok (s, text, false)
    | n + 1, s, text =>
      let c := s.cur
      if isBlankOrEnd c then .ok (s, text, false)
      else if single && c = '\'' && s.peekAt 1 = '\'' then go n s.skip.skip (text.push '\'')
      else if c = (if single then '\'' else '"') then .ok (s, text, false)
      else if !single && c = '\\' && isBreak (s.peekAt 1) then .ok (s.skip.skipLine, text, true)
      else if !single && c = '\\' then
        match escapeOf (s.peekAt 1) with
        | none =>
          .error (s.fail "while parsing a quoted scalar" start "found unknown escape character")
        | some (.inl e) => go n s.skip.skip (text.push e)
        | some (.inr len) =>
          let s := s.skip.skip
          let digits := (List.range len).map s.peekAt
          if !digits.all isHex then
            .error (s.fail "while parsing a quoted scalar" start
              "did not find expected hexadecimal number")
          else
            let value := digits.foldl (fun acc d => acc * 16 + hexValue d) 0
            if (0xD800 ≤ value && value ≤ 0xDFFF) || value > 0x10FFFF then
              .error (s.fail "while parsing a quoted scalar" start
                "found invalid Unicode character escape code")
            else go n ((List.range len).foldl (fun s _ => s.skip) s) (text.push (Char.ofNat value))
      else
        let (s, text) := s.read text
        go n s text

/-- Reads a single- or double-quoted scalar. -/
def scanFlowScalar (s : Scanner) (single : Bool) : Except Problem (Scanner × Token) := do
  let start := s.mark
  let quote := if single then '\'' else '"'
  let rec lines : Nat → Scanner → Folding → Except Problem (Scanner × Folding)
    | 0, s, f => .ok (s, f)
    | n + 1, s, f =>
      if s.atDocumentMarker then
        .error (s.fail "while scanning a quoted scalar" start "found unexpected document indicator")
      else if s.cur = eof then
        .error (s.fail "while scanning a quoted scalar" start "found unexpected end of stream")
      else
        match s.scanQuotedRun single start f.text with
        | .error p => .error p
        | .ok (s, text, leadingBlanks) =>
          let f := { f with text, leadingBlanks }
          if s.cur = quote then .ok (s, f)
          else
            match s.scanBlanks f none start with
            | .error p => .error p
            | .ok (s, f) => lines n s f.join
  let (s, f) ← lines s.fuel s.skip {}
  let s := s.skip
  return (s, ⟨.scalar f.text (if single then .singleQuoted else .doubleQuoted), start, s.mark⟩)

/-- Reads a plain scalar, possibly over several lines. -/
def scanPlainScalar (s : Scanner) : Except Problem (Scanner × Token) := do
  let start := s.mark
  let indent : Int := s.indent + 1
  let flow := s.flowLevel > 0
  let ends (s : Scanner) : Bool :=
    (s.cur = ':' && isBlankOrEnd (s.peekAt 1)) || (flow && ",[]".contains s.cur) ||
      (flow && (s.cur = '\x7b' || s.cur = '\x7d'))
  let rec run : Nat → Scanner → Folding → Mark → Except Problem (Scanner × Folding × Mark)
    | 0, s, f, stop => .ok (s, f, stop)
    | n + 1, s, f, stop =>
      if isBlankOrEnd s.cur then .ok (s, f, stop)
      else if flow && s.cur = ':' &&
          (",?[]".contains (s.peekAt 1) || s.peekAt 1 = '\x7b' || s.peekAt 1 = '\x7d') then
        .error (s.fail "while scanning a plain scalar" start "found unexpected ':'")
      else if ends s then .ok (s, f, stop)
      else
        let f := if f.leadingBlanks || !f.whitespaces.isEmpty then
            { f.join with leadingBlanks := false } else f
        let (s, text) := s.read f.text
        run n s { f with text } s.mark
  let rec lines : Nat → Scanner → Folding → Mark → Except Problem (Scanner × Folding × Mark)
    | 0, s, f, stop => .ok (s, f, stop)
    | n + 1, s, f, stop =>
      if s.atDocumentMarker || s.cur = '#' then .ok (s, f, stop)
      else
        match run s.fuel s f stop with
        | .error p => .error p
        | .ok (s, f, stop) =>
          if !(isBlank s.cur || isBreak s.cur) then .ok (s, f, stop)
          else
            match s.scanBlanks f (some indent) start with
            | .error p => .error p
            | .ok (s, f) =>
              if !flow && (s.mark.column : Int) < indent then .ok (s, f, stop)
              else lines n s f stop
  let (s, f, stop) ← lines s.fuel s {} start
  let s := if f.leadingBlanks then { s with simpleKeyAllowed := true } else s
  return (s, ⟨.scalar f.text .plain, start, stop⟩)

/-- Queues the stream-start token. -/
def fetchStreamStart (s : Scanner) : Scanner :=
  let s := { s with indent := -1, simpleKeys := [{}], simpleKeyAllowed := true,
                    streamStartProduced := true }
  s.enqueue ⟨.streamStart, s.mark, s.mark⟩

/-- Queues the stream-end token, closing every open block collection. -/
def fetchStreamEnd (s : Scanner) : Except Problem Scanner := do
  let s := if s.mark.column != 0 then
      { s with mark := { s.mark with column := 0, line := s.mark.line + 1 } } else s
  let s ← (s.unrollIndent (-1)).removeSimpleKey
  let s := { s with simpleKeyAllowed := false }
  return s.enqueue ⟨.streamEnd, s.mark, s.mark⟩

/-- Closes every block collection and forgets the possible key, as a directive or a document
marker does. -/
def resetBlock (s : Scanner) : Except Problem Scanner := do
  let s ← (s.unrollIndent (-1)).removeSimpleKey
  return { s with simpleKeyAllowed := false }

/-- Queues a one-character indicator token. -/
def single (s : Scanner) (kind : TokenKind) : Scanner :=
  let start := s.mark
  let s := s.skip
  s.enqueue ⟨kind, start, s.mark⟩

/-- Queues the next token(s). -/
def fetchNextToken (s : Scanner) : Except Problem Scanner := do
  if !s.streamStartProduced then return s.fetchStreamStart
  let s := s.scanToNextToken
  let s ← s.staleSimpleKeys
  let s := s.unrollIndent s.mark.column
  let c := s.cur
  let next := s.peekAt 1
  if c = eof then s.fetchStreamEnd
  else if s.mark.column == 0 && c = '%' then do
    let s ← s.resetBlock
    let (s, t) ← s.scanDirective
    return s.enqueue t
  else if s.mark.column == 0 && c = '-' && next = '-' && s.peekAt 2 = '-' &&
      isBlankOrEnd (s.peekAt 3) then do
    let s ← s.resetBlock
    let start := s.mark
    let s := s.skip.skip.skip
    return s.enqueue ⟨.documentStart, start, s.mark⟩
  else if s.mark.column == 0 && c = '.' && next = '.' && s.peekAt 2 = '.' &&
      isBlankOrEnd (s.peekAt 3) then do
    let s ← s.resetBlock
    let start := s.mark
    let s := s.skip.skip.skip
    return s.enqueue ⟨.documentEnd, start, s.mark⟩
  else if c = '[' || c = '\x7b' then do
    let s ← s.saveSimpleKey
    let s := { s.increaseFlowLevel with simpleKeyAllowed := true }
    return s.single (if c = '[' then .flowSequenceStart else .flowMappingStart)
  else if c = ']' || c = '\x7d' then do
    let s ← s.removeSimpleKey
    let s := { s.decreaseFlowLevel with simpleKeyAllowed := false }
    return s.single (if c = ']' then .flowSequenceEnd else .flowMappingEnd)
  else if c = ',' then do
    let s ← s.removeSimpleKey
    return { s with simpleKeyAllowed := true }.single .flowEntry
  else if c = '-' && isBlankOrEnd next then do
    let s ←
      if s.flowLevel == 0 then
        if !s.simpleKeyAllowed then
          throw (s.failHere "block sequence entries are not allowed in this context")
        else pure (s.rollIndent s.mark.column none .blockSequenceStart s.mark)
      else pure s
    let s ← s.removeSimpleKey
    return { s with simpleKeyAllowed := true }.single .blockEntry
  else if c = '?' && (s.flowLevel > 0 || isBlankOrEnd next) then do
    let s ←
      if s.flowLevel == 0 then
        if !s.simpleKeyAllowed then
          throw (s.failHere "mapping keys are not allowed in this context")
        else pure (s.rollIndent s.mark.column none .blockMappingStart s.mark)
      else pure s
    let s ← s.removeSimpleKey
    return { s with simpleKeyAllowed := s.flowLevel == 0 }.single .key
  else if c = ':' && (s.flowLevel > 0 || isBlankOrEnd next) then do
    let k := s.topKey
    let s ←
      if k.possible then
        let s := s.insertToken (k.tokenNumber - s.tokensParsed) ⟨.key, k.mark, k.mark⟩
        let s := s.rollIndent k.mark.column (some k.tokenNumber) .blockMappingStart k.mark
        pure { s.setTopKey { k with possible := false } with simpleKeyAllowed := false }
      else if s.flowLevel == 0 then
        if !s.simpleKeyAllowed then
          throw (s.failHere "mapping values are not allowed in this context")
        else
          pure { s.rollIndent s.mark.column none .blockMappingStart s.mark with
                 simpleKeyAllowed := true }
      else pure { s with simpleKeyAllowed := false }
    return s.single .value
  else if c = '*' || c = '&' then do
    let s ← s.saveSimpleKey
    let (s, t) ← { s with simpleKeyAllowed := false }.scanAnchor (c = '&')
    return s.enqueue t
  else if c = '!' then do
    let s ← s.saveSimpleKey
    let (s, t) ← { s with simpleKeyAllowed := false }.scanTag
    return s.enqueue t
  else if (c = '|' || c = '>') && s.flowLevel == 0 then do
    let s ← s.removeSimpleKey
    let (s, t) ← { s with simpleKeyAllowed := true }.scanBlockScalar (c = '|')
    return s.enqueue t
  else if c = '\'' || c = '"' then do
    let s ← s.saveSimpleKey
    let (s, t) ← { s with simpleKeyAllowed := false }.scanFlowScalar (c = '\'')
    return s.enqueue t
  else if !(isBlankOrEnd c || "-?:,[]#&*!|>'\"%@".contains c || c = '\x7b' || c = '\x7d' ||
        c = '\x60') ||
      (c = '-' && !isBlank next) ||
      (s.flowLevel == 0 && (c = '?' || c = ':') && !isBlankOrEnd next) then do
    let s ← s.saveSimpleKey
    let (s, t) ← { s with simpleKeyAllowed := false }.scanPlainScalar
    return s.enqueue t
  else
    throw (s.fail "while scanning for the next token" s.mark
      "found character that cannot start any token")

/-- Scans until the first queued token can no longer be preceded by a key token. -/
def fetchMoreTokens (s : Scanner) : Except Problem Scanner := go (s.input.size + 3) s
where
  /-- One token fetch per round. -/
  go : Nat → Scanner → Except Problem Scanner
    | 0, s => .ok { s with tokenAvailable := true }
    | n + 1, s => do
      let (need, s) ←
        if s.queue.isEmpty then pure (true, s)
        else do
          let s ← s.staleSimpleKeys
          pure (s.simpleKeys.any (fun k => k.possible && k.tokenNumber == s.tokensParsed), s)
      if need then go n (← s.fetchNextToken) else pure { s with tokenAvailable := true }

/-- The next token, scanning as far as needed. -/
def peekToken (s : Scanner) : Except Problem (Token × Scanner) := do
  let s ← if s.tokenAvailable then pure s else s.fetchMoreTokens
  match s.queue with
  | t :: _ => return (t, s)
  | [] => throw { problem := "no more tokens", mark := s.mark }

/-- Takes the next token off the queue. -/
def skipToken (s : Scanner) : Scanner :=
  match s.queue with
  | t :: rest =>
    { s with queue := rest, tokenAvailable := false, tokensParsed := s.tokensParsed + 1,
             streamEndProduced := t.kind == .streamEnd }
  | [] => s

end Scanner

end DevstackConf.Yaml
