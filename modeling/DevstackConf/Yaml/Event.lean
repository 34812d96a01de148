import DevstackConf.Yaml.Token.Scan

/-!
# Parsing YAML tokens into events

The parser reads tokens and produces events: the start and end of the stream, of each document,
of each sequence and mapping, and each scalar and alias. It is a state machine; the state says
what may come next, and a stack of states says where to return once a collection or document
ends. A stack of positions remembers where each open block or flow collection began, for the
context of a problem found inside it.

Tags written with a handle are resolved against the `%TAG` directives of the document and the
two standard handles: `!` stands for itself and `!!` for `tag:yaml.org,2002:`. A node with an
anchor or tag but no content is an empty plain scalar, as is a missing key or value.
-/

namespace DevstackConf.Yaml

/-- What an event is. -/
inductive EventKind where
  | streamStart
  | streamEnd
  | documentStart
  | documentEnd
  | alias (name : String)
  | scalar (anchor : Option String) (tag : Option Tag) (value : String) (style : ScalarStyle)
  | sequenceStart (anchor : Option String) (tag : Option Tag)
  | sequenceEnd
  | mappingStart (anchor : Option String) (tag : Option Tag)
  | mappingEnd
  deriving DecidableEq, Repr, Inhabited

/-- An event and the position where it starts. -/
structure Event where
  /-- What the event is. -/
  kind : EventKind
  /-- Where it starts. -/
  start : Mark
  deriving DecidableEq, Repr, Inhabited

/-- What the parser expects next. -/
inductive ParseState where
  | streamStart
  | implicitDocumentStart
  | documentStart
  | documentContent
  | documentEnd
  | blockNode
  | blockNodeOrIndentlessSequence
  | flowNode
  | blockSequenceFirstEntry
  | blockSequenceEntry
  | indentlessSequenceEntry
  | blockMappingFirstKey
  | blockMappingKey
  | blockMappingValue
  | flowSequenceFirstEntry
  | flowSequenceEntry
  | flowSequenceEntryMappingKey
  | flowSequenceEntryMappingValue
  | flowSequenceEntryMappingEnd
  | flowMappingFirstKey
  | flowMappingKey
  | flowMappingValue
  | flowMappingEmptyValue
  | finished
  deriving DecidableEq, Repr, Inhabited

/-- The parser's state. -/
structure Parser where
  /-- The token source. -/
  scanner : Scanner
  /-- What is expected next. -/
  state : ParseState := .streamStart
  /-- Where to return, innermost first. -/
  states : List ParseState := []
  /-- Where the open collections began, innermost first. -/
  marks : List Mark := []
  /-- The tag handles of the current document and their prefixes, in order of definition. -/
  tagDirectives : List (String × List UInt8) := []
  deriving Inhabited

/-- The tag handles every document knows. -/
def defaultTagDirectives : List (String × List UInt8) :=
  [("!", "!".toUTF8.toList), ("!!", "tag:yaml.org,2002:".toUTF8.toList)]

namespace Parser

/-- A parser for a text whose characters are `input`. -/
def ofChars (input : Array Char) : Parser := { scanner := { input } }

/-- The next token. -/
def peek (p : Parser) : Except Problem (Token × Parser) :=
  p.scanner.peekToken.map fun (t, s) => (t, { p with scanner := s })

/-- Takes the next token. -/
def advance (p : Parser) : Parser := { p with scanner := p.scanner.skipToken }

/-- Returns to the state on top of the stack. -/
def popState (p : Parser) : Parser :=
  match p.states with
  | s :: rest => { p with state := s, states := rest }
  | [] => { p with state := .finished }

/-- Remembers `s` as the state to return to. -/
def pushState (p : Parser) (s : ParseState) : Parser := { p with states := s :: p.states }

/-- The position where the innermost open collection began, and the parser without it. -/
def popMark (p : Parser) : Mark × Parser :=
  match p.marks with
  | m :: rest => (m, { p with marks := rest })
  | [] => ({}, p)

/-- An empty plain scalar at `m`. -/
def emptyScalar (m : Mark) : Event := ⟨.scalar none none "" .plain, m⟩

/-- A problem at `m` found while reading what began at `start`. -/
def problemIn (context : String) (start : Mark) (problem : String) (m : Mark) : Problem :=
  { problem, mark := m, context := some (context, start) }

/-- Opens the stream. -/
def streamStart (p : Parser) : Except Problem (Event × Parser) := do
  let (t, p) ← p.peek
  if t.kind != .streamStart then
    throw { problem := "did not find expected <stream-start>", mark := t.start }
  return (⟨.streamStart, t.start⟩, { p.advance with state := .implicitDocumentStart })

/-- Adds a tag directive; a handle defined twice is an error unless `defaults`. -/
def appendTagDirective (p : Parser) (d : String × List UInt8) (defaults : Bool) (m : Mark) :
    Except Problem Parser :=
  if p.tagDirectives.any (·.1 == d.1) then
    if defaults then .ok p
    else .error { problem := "found duplicate %TAG directive", mark := m }
  else .ok { p with tagDirectives := p.tagDirectives ++ [d] }

/-- Reads the directives before a document, then adds the standard tag handles. -/
def processDirectives (p : Parser) : Except Problem Parser := go (p.scanner.input.size + 2) p false
where
  /-- One directive per round. -/
  go : Nat → Parser → Bool → Except Problem Parser
    | 0, p, _ => .ok p
    | n + 1, p, seenVersion => do
      let (t, p) ← p.peek
      match t.kind with
      | .versionDirective major minor =>
        if seenVersion then
          throw { problem := "found duplicate %YAML directive", mark := t.start }
        if major != 1 || (minor != 1 && minor != 2) then
          throw { problem := "found incompatible YAML document", mark := t.start }
        go n p.advance true
      | .tagDirective handle tagPrefix =>
        let p ← p.appendTagDirective (handle, tagPrefix) false t.start
        go n p.advance seenVersion
      | _ => defaultTagDirectives.foldlM (fun p d => p.appendTagDirective d true t.start) p

/-- Starts a document, or ends the stream. Before an implicit document there may be no
directives; extra document-end markers are skipped otherwise. -/
def documentStart (p : Parser) (implicit : Bool) : Except Problem (Event × Parser) := do
  let (t, p) ← p.peek
  let (t, p) ← if implicit then pure (t, p) else skipEnds (p.scanner.input.size + 2) t p
  if implicit && !(t.kind matches .versionDirective .. | .tagDirective .. | .documentStart |
      .streamEnd) then
    let p ← p.processDirectives
    return (⟨.documentStart, t.start⟩, { p.pushState .documentEnd with state := .blockNode })
  else if t.kind != .streamEnd then
    let start := t.start
    let p ← p.processDirectives
    let (t, p) ← p.peek
    if t.kind != .documentStart then
      throw { problem := "did not find expected <document start>", mark := t.start }
    return (⟨.documentStart, start⟩,
      { (p.pushState .documentEnd).advance with state := .documentContent })
  else
    return (⟨.streamEnd, t.start⟩, { p.advance with state := .finished })
where
  /-- Skips document-end markers. -/
  skipEnds : Nat → Token → Parser → Except Problem (Token × Parser)
    | 0, t, p => .ok (t, p)
    | n + 1, t, p =>
      if t.kind == .documentEnd then
        match p.advance.peek with
        | .error e => .error e
        | .ok (t, p) => skipEnds n t p
      else .ok (t, p)

/-- Reads a node: an alias, or properties (anchor and tag, in either order) and content. -/
def parseNode (p : Parser) (block indentless : Bool) : Except Problem (Event × Parser) := do
  let (t, p) ← p.peek
  if let .alias name := t.kind then
    return (⟨.alias name, t.start⟩, p.popState.advance)
  let start := t.start
  let (anchor, written, tagMark, t, p) ← match t.kind with
    | .anchor a => do
      let (t2, p) ← p.advance.peek
      match t2.kind with
      | .tag h s =>
        let (t3, p) ← p.advance.peek
        pure (some a, some (h, s), t2.start, t3, p)
      | _ => pure (some a, none, start, t2, p)
    | .tag h s => do
      let (t2, p) ← p.advance.peek
      match t2.kind with
      | .anchor a =>
        let (t3, p) ← p.advance.peek
        pure (some a, some (h, s), start, t3, p)
      | _ => pure (none, some (h, s), start, t2, p)
    | _ => pure (none, none, start, t, p)
  let tag ← match written with
    | none => pure none
    | some (h, s) =>
      if h.isEmpty then pure (some (Tag.ofBytes s))
      else match p.tagDirectives.find? (·.1 == h) with
        | some (_, pre) => pure (some ⟨(Tag.ofBytes pre).bytes ++ (Tag.ofBytes s).bytes⟩)
        | none =>
          throw (problemIn "while parsing a node" start "found undefined tag handle" tagMark)
  if indentless && t.kind == .blockEntry then
    return (⟨.sequenceStart anchor tag, start⟩, { p with state := .indentlessSequenceEntry })
  match t.kind with
  | .scalar v style => return (⟨.scalar anchor tag v style, start⟩, p.popState.advance)
  | .flowSequenceStart =>
    return (⟨.sequenceStart anchor tag, start⟩, { p with state := .flowSequenceFirstEntry })
  | .flowMappingStart =>
    return (⟨.mappingStart anchor tag, start⟩, { p with state := .flowMappingFirstKey })
  | _ =>
    if block && t.kind == .blockSequenceStart then
      return (⟨.sequenceStart anchor tag, start⟩, { p with state := .blockSequenceFirstEntry })
    else if block && t.kind == .blockMappingStart then
      return (⟨.mappingStart anchor tag, start⟩, { p with state := .blockMappingFirstKey })
    else if anchor.isSome || tag.isSome then
      return (⟨.scalar anchor tag "" .plain, start⟩, p.popState)
    else
      throw (problemIn (if block then "while parsing a block node" else "while parsing a flow node")
        start "did not find expected node content" t.start)

/-- The content of an explicit document, or an empty scalar when it has none. -/
def documentContent (p : Parser) : Except Problem (Event × Parser) := do
  let (t, p) ← p.peek
  if t.kind matches .versionDirective .. | .tagDirective .. | .documentStart | .documentEnd |
      .streamEnd then
    return (emptyScalar t.start, p.popState)
  else p.parseNode true false

/-- Ends a document, taking an explicit end marker if there is one. -/
def documentEnd (p : Parser) : Except Problem (Event × Parser) := do
  let (t, p) ← p.peek
  let p := if t.kind == .documentEnd then p.advance else p
  return (⟨.documentEnd, t.start⟩, { p with tagDirectives := [], state := .documentStart })

/-- Opens a collection: remembers where it began and takes its start token. -/
def openCollection (p : Parser) : Except Problem Parser := do
  let (t, p) ← p.peek
  return { p.advance with marks := t.start :: p.marks }

/-- An entry of a block sequence, or its end. -/
def blockSequenceEntry (p : Parser) (first : Bool) : Except Problem (Event × Parser) := do
  let p ← if first then p.openCollection else pure p
  let (t, p) ← p.peek
  match t.kind with
  | .blockEntry =>
    let (t2, p) ← p.advance.peek
    if t2.kind != .blockEntry && t2.kind != .blockEnd then
      (p.pushState .blockSequenceEntry).parseNode true false
    else return (emptyScalar t.stop, { p with state := .blockSequenceEntry })
  | .blockEnd =>
    let (_, p) := p.popState.popMark
    return (⟨.sequenceEnd, t.start⟩, p.advance)
  | _ =>
    let (m, _) := p.popMark
    throw (problemIn "while parsing a block collection" m "did not find expected '-' indicator"
      t.start)

/-- An entry of a sequence written without indentation inside a mapping, or its end. -/
def indentlessSequenceEntry (p : Parser) : Except Problem (Event × Parser) := do
  let (t, p) ← p.peek
  if t.kind == .blockEntry then
    let (t2, p) ← p.advance.peek
    if !(t2.kind matches .blockEntry | .key | .value | .blockEnd) then
      (p.pushState .indentlessSequenceEntry).parseNode true false
    else return (emptyScalar t.stop, { p with state := .indentlessSequenceEntry })
  else return (⟨.sequenceEnd, t.start⟩, p.popState)

/-- A key of a block mapping, or its end. -/
def blockMappingKey (p : Parser) (first : Bool) : Except Problem (Event × Parser) := do
  let p ← if first then p.openCollection else pure p
  let (t, p) ← p.peek
  match t.kind with
  | .key =>
    let (t2, p) ← p.advance.peek
    if !(t2.kind matches .key | .value | .blockEnd) then
      (p.pushState .blockMappingValue).parseNode true true
    else return (emptyScalar t.stop, { p with state := .blockMappingValue })
  | .blockEnd =>
    let (_, p) := p.popState.popMark
    return (⟨.mappingEnd, t.start⟩, p.advance)
  | _ =>
    let (m, _) := p.popMark
    throw (problemIn "while parsing a block mapping" m "did not find expected key" t.start)

/-- A value of a block mapping; a missing one is empty. -/
def blockMappingValue (p : Parser) : Except Problem (Event × Parser) := do
  let (t, p) ← p.peek
  if t.kind == .value then
    let (t2, p) ← p.advance.peek
    if !(t2.kind matches .key | .value | .blockEnd) then
      (p.pushState .blockMappingKey).parseNode true true
    else return (emptyScalar t.stop, { p with state := .blockMappingKey })
  else return (emptyScalar t.start, { p with state := .blockMappingKey })

/-- An entry of a flow sequence, or its end. A `?` starts a mapping of one pair. -/
def flowSequenceEntry (p : Parser) (first : Bool) : Except Problem (Event × Parser) := do
  let p ← if first then p.openCollection else pure p
  let (t, p) ← p.peek
  let closing (t : Token) (p : Parser) : Event × Parser :=
    let (_, p) := p.popState.popMark
    (⟨.sequenceEnd, t.start⟩, p.advance)
  if t.kind == .flowSequenceEnd then return closing t p
  let (t, p) ←
    if first then pure (t, p)
    else if t.kind == .flowEntry then p.advance.peek
    else
      let (m, _) := p.popMark
      throw (problemIn "while parsing a flow sequence" m "did not find expected ',' or ']'" t.start)
  if t.kind == .key then
    return (⟨.mappingStart none none, t.start⟩,
      { p.advance with state := .flowSequenceEntryMappingKey })
  else if t.kind != .flowSequenceEnd then
    (p.pushState .flowSequenceEntry).parseNode false false
  else return closing t p

/-- The key of a one-pair mapping inside a flow sequence. -/
def flowSequenceEntryMappingKey (p : Parser) : Except Problem (Event × Parser) := do
  let (t, p) ← p.peek
  if !(t.kind matches .value | .flowEntry | .flowSequenceEnd) then
    (p.pushState .flowSequenceEntryMappingValue).parseNode false false
  else return (emptyScalar t.stop, { p.advance with state := .flowSequenceEntryMappingValue })

/-- The value of a one-pair mapping inside a flow sequence. -/
def flowSequenceEntryMappingValue (p : Parser) : Except Problem (Event × Parser) := do
  let (t, p) ← p.peek
  if t.kind == .value then
    let (t2, p) ← p.advance.peek
    if !(t2.kind matches .flowEntry | .flowSequenceEnd) then
      (p.pushState .flowSequenceEntryMappingEnd).parseNode false false
    else return (emptyScalar t2.start, { p with state := .flowSequenceEntryMappingEnd })
  else return (emptyScalar t.start, { p with state := .flowSequenceEntryMappingEnd })

/-- Ends a one-pair mapping inside a flow sequence. -/
def flowSequenceEntryMappingEnd (p : Parser) : Except Problem (Event × Parser) := do
  let (t, p) ← p.peek
  return (⟨.mappingEnd, t.start⟩, { p with state := .flowSequenceEntry })

/-- A key of a flow mapping, or its end. -/
def flowMappingKey (p : Parser) (first : Bool) : Except Problem (Event × Parser) := do
  let p ← if first then p.openCollection else pure p
  let (t, p) ← p.peek
  let closing (t : Token) (p : Parser) : Event × Parser :=
    let (_, p) := p.popState.popMark
    (⟨.mappingEnd, t.start⟩, p.advance)
  if t.kind == .flowMappingEnd then return closing t p
  let (t, p) ←
    if first then pure (t, p)
    else if t.kind == .flowEntry then p.advance.peek
    else
      let (m, _) := p.popMark
      throw (problemIn "while parsing a flow mapping" m "did not find expected ',' or '\x7d'"
        t.start)
  if t.kind == .key then
    let (t2, p) ← p.advance.peek
    if !(t2.kind matches .value | .flowEntry | .flowMappingEnd) then
      (p.pushState .flowMappingValue).parseNode false false
    else return (emptyScalar t2.start, { p with state := .flowMappingValue })
  else if t.kind != .flowMappingEnd then
    (p.pushState .flowMappingEmptyValue).parseNode false false
  else return closing t p

/-- A value of a flow mapping; a missing one is empty. -/
def flowMappingValue (p : Parser) (empty : Bool) : Except Problem (Event × Parser) := do
  let (t, p) ← p.peek
  if empty then return (emptyScalar t.start, { p with state := .flowMappingKey })
  if t.kind == .value then
    let (t2, p) ← p.advance.peek
    if !(t2.kind matches .flowEntry | .flowMappingEnd) then
      (p.pushState .flowMappingKey).parseNode false false
    else return (emptyScalar t2.start, { p with state := .flowMappingKey })
  else return (emptyScalar t.start, { p with state := .flowMappingKey })

/-- The next event. -/
def next (p : Parser) : Except Problem (Event × Parser) :=
  match p.state with
  | .streamStart => p.streamStart
  | .implicitDocumentStart => p.documentStart true
  | .documentStart => p.documentStart false
  | .documentContent => p.documentContent
  | .documentEnd => p.documentEnd
  | .blockNode => p.parseNode true false
  | .blockNodeOrIndentlessSequence => p.parseNode true true
  | .flowNode => p.parseNode false false
  | .blockSequenceFirstEntry => p.blockSequenceEntry true
  | .blockSequenceEntry => p.blockSequenceEntry false
  | .indentlessSequenceEntry => p.indentlessSequenceEntry
  | .blockMappingFirstKey => p.blockMappingKey true
  | .blockMappingKey => p.blockMappingKey false
  | .blockMappingValue => p.blockMappingValue
  | .flowSequenceFirstEntry => p.flowSequenceEntry true
  | .flowSequenceEntry => p.flowSequenceEntry false
  | .flowSequenceEntryMappingKey => p.flowSequenceEntryMappingKey
  | .flowSequenceEntryMappingValue => p.flowSequenceEntryMappingValue
  | .flowSequenceEntryMappingEnd => p.flowSequenceEntryMappingEnd
  | .flowMappingFirstKey => p.flowMappingKey true
  | .flowMappingKey => p.flowMappingKey false
  | .flowMappingValue => p.flowMappingValue false
  | .flowMappingEmptyValue => p.flowMappingValue true
  | .finished => .error { problem := "no more events", mark := p.scanner.mark }

end Parser

end DevstackConf.Yaml
