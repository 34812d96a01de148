import DevstackConf.Graph.Basic

/-!
# Plugin settings files

A plugin's settings file names the plugin with a line `define_plugin NAME` and the plugins it
needs with lines `plugin_requires NAME REQUIRED`. A requirement counts only when its first word
is the plugin most recently defined above it; requirements are never forgotten when a later
line defines another name. Reading yields the last defined name with every requirement credited
to it, or nothing when no name was defined or nothing was required.

Lines end at a line feed, and a carriage return just before that line feed is dropped. Blanks are
the ASCII tab, line feed, vertical tab, form feed, carriage return and space; a word is a
maximal run of other characters.
-/

namespace DevstackConf

namespace Settings

/-- The blank characters of a settings line. -/
def isBlank (c : Char) : Bool :=
  c = ' ' || c = '\t' || c = '\n' || c = '\x0B' || c = '\x0C' || c = '\r'

/-- The lines of a text: split after each line feed, dropping the line feed and one carriage
return before it; text after the last line feed is a line when it is not empty. -/
def lines (text : String) : List String :=
  let rec go : List Char → List Char → List String
    | [], [] => []
    | [], cur => [String.ofList cur.reverse]
    | '\n' :: rest, cur =>
      let line := match cur with
        | '\r' :: c => c
        | c => c
      String.ofList line.reverse :: go rest []
    | c :: rest, cur => go rest (c :: cur)
  go text.toList []

/-- After a keyword: one or more blanks, then a word; gives the word and what follows it. -/
def blankThenWord? (cs : List Char) : Option (String × List Char) :=
  let afterBlanks := cs.dropWhile isBlank
  let word := afterBlanks.takeWhile (!isBlank ·)
  if afterBlanks.length < cs.length && !word.isEmpty then
    some (String.ofList word, afterBlanks.dropWhile (!isBlank ·))
  else none

/-- The plugin a `define_plugin NAME` line defines. -/
def definedName? (line : String) : Option String :=
  if "define_plugin".toList.isPrefixOf line.toList then
    (blankThenWord? (line.toList.drop 13)).map (·.1)
  else none

/-- The plugin and requirement of a `plugin_requires NAME REQUIRED` line. -/
def requirement? (line : String) : Option (String × String) :=
  if "plugin_requires".toList.isPrefixOf line.toList then
    match blankThenWord? (line.toList.drop 15) with
    | none => none
    | some (dependent, rest) => (blankThenWord? rest).map fun (required, _) => (dependent, required)
  else none

/-- The state of a reading: the plugin defined last, and everything credited so far. -/
structure Reading where
  /-- The most recently defined plugin. -/
  current : Option String := none
  /-- Requirements credited to the plugin current when they were read. -/
  requires : NameSet := ∅

/-- Reads one line. -/
def Reading.step (r : Reading) (line : String) : Reading :=
  let r := match definedName? line with
    | some n => { r with current := some n }
    | none => r
  match requirement? line with
  | some (dependent, required) =>
    if r.current == some dependent then { r with requires := r.requires.insert required } else r
  | none => r

/-- The plugin a settings text defines last, with the requirements credited to the plugins it
defines; nothing when no plugin is defined or nothing is required. -/
def parse (text : String) : Option (String × NameSet) :=
  let r := (lines text).foldl Reading.step {}
  match r.current with
  | some n => if r.requires.isEmpty then none else some (n, r.requires)
  | none => none

end Settings

end DevstackConf
