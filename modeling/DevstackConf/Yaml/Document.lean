import DevstackConf.Yaml.Event

/-!
# Loading the first document of a YAML stream

Decoding works on the events of the first document, gathered up front. An anchored node gets
the next anchor number, where the next number is the count of distinct anchor names seen so
far; the document records, per number, the index of the event of the latest node given it. An
alias refers to the number its name has when the alias is read and is followed when decoding.
(Redefining a name therefore does not raise the count, and a later new name can take over a
number an earlier alias refers to.) An alias to a name not yet defined ends the document with
an error, as does a problem in the text; the events read before it are kept.

A stream without any document has one document holding a single empty node.
-/

namespace DevstackConf.Yaml

/-- An event of a loaded document as the decoder sees it. -/
inductive Node where
  /-- A reference to the node with the given anchor number. -/
  | alias (id : Nat)
  | scalar (tag : Option Tag) (value : String) (style : ScalarStyle)
  | sequenceStart (tag : Option Tag)
  | sequenceEnd
  | mappingStart (tag : Option Tag)
  | mappingEnd
  /-- The content of a stream without documents. -/
  | void
  deriving DecidableEq, Repr, Inhabited

/-- Why a document ended early. -/
inductive LoadError where
  /-- A problem in the text. -/
  | problem (p : Problem)
  /-- An alias to an undefined anchor, at the alias. -/
  | unknownAnchor (m : Mark)
  deriving DecidableEq, Repr, Inhabited

/-- The events of a document with their positions, where each anchor number leads, and why
the document ended early if it did. -/
structure Document where
  /-- The events in order. -/
  nodes : Array (Node × Mark) := #[]
  /-- For each anchor number, the index of its node. -/
  anchors : List (Nat × Nat) := []
  /-- Why the document ended early. -/
  error : Option LoadError := none
  deriving Inhabited

namespace Document

/-- The index of the node with anchor number `id`. -/
def target (d : Document) (id : Nat) : Option Nat := (d.anchors.find? (·.1 == id)).map (·.2)

end Document

/-- Replaces the value under `k`, or adds it at the end. -/
def assocSet {β : Type} (xs : List (String × β)) (k : String) (v : β) : List (String × β) :=
  if xs.any (·.1 == k) then xs.map fun (a, b) => if a == k then (a, v) else (a, b)
  else xs ++ [(k, v)]

/-- Records the anchor of a node about to be added: the name gets the next number, and the
number leads to the node. -/
def defineAnchor (names : List (String × Nat)) (d : Document) :
    Option String → List (String × Nat) × Document
  | none => (names, d)
  | some a =>
    let id := names.length
    (assocSet names a id,
      { d with anchors := (id, d.nodes.size) :: d.anchors.filter (·.1 != id) })

/-- Adds a node. -/
def Document.push (d : Document) (n : Node) (m : Mark) : Document :=
  { d with nodes := d.nodes.push (n, m) }

/-- Reads the events of one document. The result is the document (none when the stream ended
before another document began, unless it is the first) and the parser to go on with (none
once the stream has ended). -/
def collectDocument (first : Bool) : Nat → Parser → List (String × Nat) → Document →
    Option Document × Option Parser
  | 0, p, _, d => (some d, some p)
  | n + 1, p, names, d =>
    match p.next with
    | .error e => (some { d with error := some (.problem e) }, some p)
    | .ok (ev, p) =>
      match ev.kind with
      | .streamStart | .documentStart => collectDocument first n p names d
      | .streamEnd =>
        (if first then some (if d.nodes.isEmpty then d.push .void ev.start else d) else none, none)
      | .documentEnd => (some d, some p)
      | .alias name =>
        match names.find? (·.1 == name) with
        | some (_, id) => collectDocument first n p names (d.push (.alias id) ev.start)
        | none => (some { d with error := some (.unknownAnchor ev.start) }, some p)
      | .scalar anchor tag value style =>
        let (names, d) := defineAnchor names d anchor
        collectDocument first n p names (d.push (.scalar tag value style) ev.start)
      | .sequenceStart anchor tag =>
        let (names, d) := defineAnchor names d anchor
        collectDocument first n p names (d.push (.sequenceStart tag) ev.start)
      | .sequenceEnd => collectDocument first n p names (d.push .sequenceEnd ev.start)
      | .mappingStart anchor tag =>
        let (names, d) := defineAnchor names d anchor
        collectDocument first n p names (d.push (.mappingStart tag) ev.start)
      | .mappingEnd => collectDocument first n p names (d.push .mappingEnd ev.start)

/-- The first document of a text, and whether anything follows it: another document, or a
problem reading one. -/
def loadFirst (text : String) : Document × Bool :=
  match decodeText text with
  | .error p => ({ error := some (.problem p) }, true)
  | .ok cs =>
    let fuel := 16 * (cs.size + 8)
    match collectDocument true fuel (Parser.ofChars cs) [] {} with
    | (some d, some p) => (d, (collectDocument false fuel p [] {}).1.isSome)
    | (some d, none) => (d, false)
    | (none, _) => ({}, false)

end DevstackConf.Yaml
