import DevstackConf.Yaml.Resolve
import DevstackConf.Dict

/-!
# Decoding typed values from a YAML document

A decoder reads the events of a loaded document from left to right and builds a value. It works
at a *place*: the document, the path from the top of the document to the node (for messages),
and how many more collections may nest (128 at the top; entering a collection beyond that is an
error). The cursor, shared by all places, is the index of the next event and the number of
aliases followed so far; following more than a hundred aliases per event is an error, which
stops documents that expand exponentially.

An alias is followed by reading the node it refers to with a separate cursor, so the main
cursor moves on past the alias only. Nothing here follows an alias from an alias: an anchor is
always on a scalar or a collection.

Messages from a decoder get the position and path of the node being decoded when they are
raised, unless an inner decoder already gave them one. A path is written `.` at the top,
`a.b` for the value of key `b` in the value of key `a`, `a[0]` for the first element, and `?`
for the value of a key that is not a scalar.
-/

namespace DevstackConf.Yaml

/-- One step of the path from the top of a document to a node. -/
inductive PathStep where
  /-- The value of the entry with this key. -/
  | key (k : String)
  /-- The element with this index. -/
  | index (i : Nat)
  /-- The value of an entry whose key is not a scalar. -/
  | unknown
  /-- The node an alias refers to. -/
  | alias
  deriving DecidableEq, Repr, Inhabited

/-- A path from the top of a document, innermost step first. -/
abbrev Path := List PathStep

/-- The text of a path; see the module note. -/
def pathText : Path → String
  | [] => "."
  | .index i :: parent => pathText parent ++ "[" ++ toString i ++ "]"
  | .key k :: parent => (if parent.isEmpty then "" else pathText parent ++ ".") ++ k
  | .unknown :: parent => (if parent.isEmpty then "" else pathText parent ++ ".") ++ "?"
  | .alias :: parent => pathText parent

/-- Why decoding failed. -/
inductive DecodeError where
  /-- A problem in the text. -/
  | problem (p : Problem)
  /-- An alias to an undefined anchor. -/
  | unknownAnchor (m : Mark)
  /-- A decoder's message, with the position and path of its node once known. -/
  | custom (text : String) (pos : Option (Mark × String))
  /-- The events ended where a value was expected. -/
  | endOfStream
  /-- Another document follows the first. -/
  | moreThanOneDocument
  /-- Collections nest too deeply. -/
  | recursionLimit (m : Mark)
  /-- Aliases were followed too often. -/
  | repetitionLimit
  deriving Inhabited

namespace DecodeError

/-- `text at line L column C`, unless the position is the very start. -/
def located (text : String) (m : Mark) : String :=
  if m.isStart then text else text ++ " at " ++ m.text

/-- The text of the error. -/
def message : DecodeError → String
  | problem p => p.message
  | unknownAnchor m => located "unknown anchor" m
  | custom t none => t
  | custom t (some (m, path)) => located ((if path == "." then "" else path ++ ": ") ++ t) m
  | endOfStream => "EOF while parsing a value"
  | moreThanOneDocument =>
    "deserializing from YAML containing more than one document is not supported"
  | recursionLimit m => located "recursion limit exceeded" m
  | repetitionLimit => "repetition limit exceeded"

/-- Gives a decoder's message the position and path of its node, if it has none yet. -/
def fix (m : Mark) (path : Path) : DecodeError → DecodeError
  | custom t none => custom t (some (m, pathText path))
  | e => e

end DecodeError

/-- The error a document ended with. -/
def LoadError.toDecodeError : LoadError → DecodeError
  | .problem p => .problem p
  | .unknownAnchor m => .unknownAnchor m

/-- The shared reading state: the next event and the number of aliases followed. -/
structure Cursor where
  /-- The index of the next event. -/
  pos : Nat := 0
  /-- Aliases followed so far. -/
  jumps : Nat := 0

/-- A decoding step. -/
abbrev Decode := StateT Cursor (Except DecodeError)

/-- Where a decoder reads. -/
structure Place where
  /-- The document. -/
  doc : Document
  /-- The path to the node. -/
  path : Path := []
  /-- How many more collections may nest. -/
  depth : Nat := 128

/-- The message of a node of the wrong kind, given what was expected. An empty document ends
early instead. -/
def unexpectedNode (n : Node) (expected : String) : DecodeError :=
  match n with
  | .scalar tag v style =>
    match resolveScalar tag v style with
    | .error msg => .custom msg none
    | .ok r => .custom (invalidType r.describe expected) none
  | .sequenceStart _ => .custom (invalidType "sequence" expected) none
  | .mappingStart _ => .custom (invalidType "map" expected) none
  | _ => .endOfStream

/-- Moves the cursor past one event. -/
def advance : Decode Unit := modify fun c => { c with pos := c.pos + 1 }

namespace Place

/-- The next event; past the last one, the error the document ended with. -/
def peek (pl : Place) : Decode (Node × Mark) := do
  let c ← get
  match pl.doc.nodes[c.pos]? with
  | some nm => pure nm
  | none => throw ((pl.doc.error.map LoadError.toDecodeError).getD .endOfStream)

/-- Takes the next event. -/
def next (pl : Place) : Decode (Node × Mark) := do
  let nm ← pl.peek
  advance
  pure nm

/-- Runs `k`, giving its messages the position `m` and this place's path. -/
def fixing {α : Type} (pl : Place) (m : Mark) (k : Decode α) : Decode α :=
  tryCatch k fun e => throw (e.fix m pl.path)

/-- Runs `k` at the node with anchor number `id`, with a cursor of its own. -/
def jump {α : Type} (pl : Place) (id : Nat) (k : Place → Decode α) : Decode α := do
  let c ← get
  let jumps := c.jumps + 1
  if jumps > pl.doc.nodes.size * 100 then throw .repetitionLimit
  set ({ pos := (pl.doc.target id).getD pl.doc.nodes.size, jumps } : Cursor)
  let r ← k { pl with path := .alias :: pl.path }
  modify fun c' => { c' with pos := c.pos }
  pure r

/-- Takes the next node, following an alias, and hands it to `k` with its place. -/
def take {α : Type} (pl : Place) (k : Place → Node → Mark → Decode α) : Decode α := do
  let (n, m) ← pl.next
  match n with
  | .alias id => pl.jump id fun pl' => do
    let (n', m') ← pl'.next
    k pl' n' m'
  | _ => k pl n m

/-- One level deeper, for a collection starting at `m`. -/
def enter (pl : Place) (m : Mark) : Decode Place :=
  if pl.depth = 0 then throw (.recursionLimit m) else pure { pl with depth := pl.depth - 1 }

/-- Reads the elements of a sequence whose start at `m` was just taken, then its end. -/
def sequence {α : Type} (pl : Place) (m : Mark) (elem : Place → Decode α) : Decode (List α) := do
  let inner ← pl.enter m
  let xs ← loop (pl.doc.nodes.size + 1) inner 0 []
  let _ ← pl.next
  pure xs
where
  /-- One element per round. -/
  loop : Nat → Place → Nat → List α → Decode (List α)
    | 0, _, _, acc => pure acc.reverse
    | n + 1, inner, i, acc => do
      let (node, _) ← inner.peek
      match node with
      | .sequenceEnd | .void => pure acc.reverse
      | _ =>
        let x ← elem { inner with path := .index i :: pl.path }
        loop n inner (i + 1) (x :: acc)

/-- Reads the entries of a mapping whose start at `m` was just taken, then its end. `step`
reads one entry, given the place of its key (the mapping's own) and the place of its value. -/
def mapping {σ : Type} (pl : Place) (m : Mark) (init : σ) (step : σ → Place → Place → Decode σ) :
    Decode σ := do
  let inner ← pl.enter m
  let s ← loop (pl.doc.nodes.size + 1) inner init
  let _ ← pl.next
  pure s
where
  /-- One entry per round. -/
  loop : Nat → Place → σ → Decode σ
    | 0, _, s => pure s
    | n + 1, inner, s => do
      let (node, _) ← inner.peek
      match node with
      | .mappingEnd | .void => pure s
      | .scalar _ v _ => loop n inner (← step s inner { inner with path := .key v :: pl.path })
      | _ => loop n inner (← step s inner { inner with path := .unknown :: pl.path })

/-- Skips one node and everything inside it. -/
def ignore (pl : Place) : Decode Unit := go (pl.doc.nodes.size + 1) 0
where
  /-- One event per round; `depth` collections are open. -/
  go : Nat → Nat → Decode Unit
    | 0, _ => pure ()
    | n + 1, depth => do
      let (node, _) ← pl.next
      let depth := match node with
        | .sequenceStart _ | .mappingStart _ => depth + 1
        | .sequenceEnd | .mappingEnd => depth - 1
        | _ => depth
      if depth = 0 then pure () else go n depth

/-- The text of a scalar, whatever it would stand for. -/
def text (pl : Place) (expected : String) : Decode String :=
  pl.take fun pl n m => pl.fixing m do
    match n with
    | .scalar _ v _ => pure v
    | _ => throw (unexpectedNode n expected)

/-- A boolean: a plain scalar, whatever its tag, or a literal block tagged as a boolean, that
is a boolean word. -/
def boolean (pl : Place) : Decode Bool :=
  pl.take fun pl n m => pl.fixing m do
    match n with
    | .scalar tag v style =>
      if style == .plain || (style == .literal && tag == some boolTag) then
        match boolWord? v with
        | some b => pure b
        | none => throw (unexpectedNode n "a boolean")
      else throw (unexpectedNode n "a boolean")
    | _ => throw (unexpectedNode n "a boolean")

/-- An optional value at a node that is not an alias. -/
def optionalHere {α : Type} (pl : Place) (inner : Place → Decode α) : Decode (Option α) := do
  let (n, _) ← pl.peek
  match n with
  | .scalar tag v style =>
    if style != .plain then some <$> inner pl
    else match tag with
      | some t =>
        if t == nullTag then
          if isNullWord v then do advance; pure none
          else throw (.custom (invalidValue (stringWords v) "null") none)
        else some <$> inner pl
      | none => if v.isEmpty || isNullWord v then do advance; pure none else some <$> inner pl
  | .void => do advance; pure none
  | _ => some <$> inner pl

/-- An optional value: nothing for the empty document, an empty or null plain scalar, or a
null word tagged as null; otherwise the value. -/
def optional {α : Type} (pl : Place) (inner : Place → Decode α) : Decode (Option α) := do
  let (n, _) ← pl.peek
  match n with
  | .alias id => do advance; pl.jump id fun pl' => pl'.optionalHere inner
  | _ => pl.optionalHere inner

/-- A mapping read entry by entry with `step`; the empty document and an empty plain scalar
are empty mappings. `expected` names the value in messages. -/
def record {σ : Type} (pl : Place) (expected : String) (init : σ)
    (step : σ → Place → Place → Decode σ) : Decode σ :=
  pl.take fun pl n m => pl.fixing m do
    match n with
    | .mappingStart _ => pl.mapping m init step
    | .void => pure init
    | .scalar _ "" .plain => pure init
    | _ => throw (unexpectedNode n expected)

/-- A mapping from strings to values; a repeated key keeps its first place and its last value. -/
def stringMap {α : Type} (pl : Place) (value : Place → Decode α) : Decode (Dict α) :=
  pl.record "a map" Dict.empty fun acc keyPlace valuePlace => do
    let k ← keyPlace.text "a string"
    let v ← value valuePlace
    pure (acc.insert k v)

/-- A sequence; the empty document and an empty plain scalar are empty sequences. -/
def list {α : Type} (pl : Place) (elem : Place → Decode α) : Decode (List α) :=
  pl.take fun pl n m => pl.fixing m do
    match n with
    | .sequenceStart _ => pl.sequence m elem
    | .void => pure []
    | .scalar _ "" .plain => pure []
    | _ => throw (unexpectedNode n "a sequence")

end Place

/-- A node read without a target type: a scalar's value, or a collection whose contents were
read and dropped. -/
inductive Content where
  | unit
  | bool (b : Bool)
  | unsigned (n : Nat)
  | signed (n : Int)
  | float (x : Float)
  | text (s : String)
  | collection

/-- The message for a node with a local tag where no tagged value is possible. -/
def taggedNodeMessage : String := "untagged and internally tagged enums do not support enum input"

/-- Whether a node's tag names a variant: a local tag whose name (without the `!`, unless that
is all of it) is well-formed UTF-8. -/
def namesVariant : Option Tag → Bool
  | some ⟨33 :: rest⟩ => (Text.decode? (if rest.isEmpty then [33] else rest)).isSome
  | _ => false

namespace Place

/-- Reads any node; `fuel` bounds the nesting of collections and aliases. -/
def any : Nat → Place → Decode Content
  | 0, pl => do
    let (_, m) ← pl.peek
    throw (.recursionLimit m)
  | fuel + 1, pl => do
    let (n, m) ← pl.next
    pl.fixing m do
      match n with
      | .alias id => pl.jump id (any fuel)
      | .scalar tag v style =>
        if namesVariant tag then throw (.custom taggedNodeMessage none)
        match resolveScalar tag v style with
        | .error msg => throw (.custom msg none)
        | .ok .unit => pure .unit
        | .ok (.bool b) => pure (.bool b)
        | .ok (.unsigned k) => pure (.unsigned k)
        | .ok (.signed k) => pure (.signed k)
        | .ok (.float x) => pure (.float x)
        | .ok (.text s) => pure (.text s)
        | .ok r@(.wide _ _) => throw (.custom (invalidType r.describe "any value") none)
      | .sequenceStart tag =>
        if namesVariant tag then throw (.custom taggedNodeMessage none)
        let _ ← pl.sequence m (any fuel)
        pure .collection
      | .mappingStart tag =>
        if namesVariant tag then throw (.custom taggedNodeMessage none)
        pl.mapping m () fun _ keyPlace valuePlace => do
          let _ ← any fuel keyPlace
          let _ ← any fuel valuePlace
          pure ()
        pure .collection
      | _ => pure .unit

end Place

/-- The fuel for reading any node: two steps per level of nesting suffice. -/
def anyFuel : Nat := 300

/-- Decodes the first document of `text` with `k`; then a problem that ended the document
early, or another document after it, is an error. -/
def decodeDocument {α : Type} (text : String) (k : Place → Decode α) : Except DecodeError α :=
  let (d, more) := loadFirst text
  match (k { doc := d }).run {} with
  | .error e => .error e
  | .ok (a, _) =>
    match d.error with
    | some e => .error e.toDecodeError
    | none => if more then .error .moreThanOneDocument else .ok a

end DevstackConf.Yaml
