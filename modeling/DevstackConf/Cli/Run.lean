import DevstackConf.Cli.Args
import DevstackConf.Render
import DevstackConf.Plugins.Discovery
import DevstackConf.Text.Json
import DevstackConf.Text.Utf8

/-!
# Running the command line

A run reads the parameter file and the checkouts through `Sources`, prints to standard output,
and may end by writing the configuration file. Deciding what to do (`plan`) is kept apart from
writing, so that a file tree and a real file system can both carry out the write. A failing
command prints `Error: ` and its message on standard error and exits with 1; arguments that do
not fit exit with 2 without running anything.

* `write` renders the configuration file to the path given by `--output`, else to the path in the
  parameters, else to standard output;
* `order vars` prints `NAME=value` per shell variable in order, or the pairs as JSON;
* `order plugins` prints an `enable_plugin` line per plugin with a source in order, or all the
  pairs as JSON (`null` for a plugin without a source);
* `discover` prints each plugin with its requirements, the name padded to 32 characters, or a
  JSON object of them, or a note that nothing was found.

A settings file under the directory of checkouts that cannot be read fails `write`,
`order plugins` and `discover` alike.
-/

namespace DevstackConf.Cli

open Text

/-- What a command reads: a file's bytes by path, and the plugin requirements found in the
checkouts under a directory. -/
structure Sources where
  /-- The bytes of the file at a path. -/
  readFile : String → Except FsError (List UInt8)
  /-- The requirements found under a directory, or why they could not be read. -/
  requirementsAt : String → Except DiscoveryError Requirements

/-- What a file tree shows a command. -/
def Sources.ofTree (t : FileTree) : Sources := ⟨t.fileBytes, Discovery.discover t⟩

/-- How a run ends: its exit status and what it printed. -/
structure Outcome where
  /-- The exit status. -/
  exit : Nat
  /-- What was printed on standard output. -/
  stdout : String := ""
  /-- What was printed on standard error. -/
  stderr : String := ""

/-- What a run does once its arguments and inputs are read: end, or write a file and then end
with status 0 (or fail to write it). -/
inductive Step where
  /-- End with this outcome. -/
  | finish (o : Outcome)
  /-- Write `text` to `path`. -/
  | write (path text : String)

/-- The outcome of a failed command. -/
def failure (msg : String) : Outcome := { exit := 1, stderr := "Error: " ++ msg ++ "\n" }

/-- The outcome of a write that failed. -/
def writeFailure (path : String) (e : FsError) : Outcome :=
  failure ("Failed to write " ++ path ++ ": " ++ e.message)

/-- Reads and decodes the parameter file at `path`. -/
def loadParams (src : Sources) (path : String) : Except String Params :=
  match src.readFile path with
  | .error e => .error ("Failed to read " ++ path ++ ": " ++ e.message)
  | .ok bytes =>
    match Text.decode? bytes with
    | none => .error ("Failed to read " ++ path ++ ": stream did not contain valid UTF-8")
    | some text =>
      match Params.ofYaml text with
      | .error e => .error ("Failed to parse " ++ path ++ ": " ++ e.message)
      | .ok p => .ok p

/-- Ordered pairs, or the ordering error's message. -/
def orderedOrMessage {α : Type} (c : Except GraphError (Catalog α)) :
    Except String (List (String × α)) :=
  match c with
  | .error e => .error e.message
  | .ok cat => match cat.ordered with
    | .error e => .error e.message
    | .ok xs => .ok xs

/-- Renders the configuration file: to a path, or as text for standard output. -/
def writeConf (src : Sources) (params : String) (output baseDir : Option String) :
    Except String Step := do
  let p ← loadParams src params
  let p := (p.withBaseDir baseDir).withPath output
  let conf ← match LocalConf.build src.requirementsAt p with
    | .error e => throw e.message
    | .ok c => pure c
  match p.path with
  | none => pure (.finish { exit := 0, stdout := conf.text })
  | some path => pure (.write path conf.text)

/-- Prints the shell variables in order. -/
def orderVars (src : Sources) (params : String) (json : Bool) : Except String String := do
  let p ← loadParams src params
  let xs ← orderedOrMessage (Variables.order ((p.localrc.map (·.entries)).getD []))
  if json then
    return (JsonValue.arr (xs.map fun (n, v) => .arr [.str n, .str v])).pretty 0 ++ "\n"
  else return String.join (xs.map fun (n, v) => n ++ "=" ++ v ++ "\n")

/-- Prints the plugins in order. -/
def orderPlugins (src : Sources) (params : String) (baseDir : Option String) (json : Bool) :
    Except String String := do
  let p ← loadParams src params
  let p := p.withBaseDir baseDir
  let reqs ← (p.pluginRequirements src.requirementsAt).mapError (·.message)
  let sources := Plugins.sources (p.plugins.getD Dict.empty)
  let xs ← orderedOrMessage (Plugins.order reqs sources.entries)
  if json then
    return (JsonValue.arr (xs.map fun (n, s) =>
      .arr [.str n, match s with | some v => .str v | none => .null])).pretty 0 ++ "\n"
  else
    return String.join (xs.filterMap fun (n, s) => match s with
      | some v => if v.isEmpty then none else some ("enable_plugin " ++ n ++ " " ++ v ++ "\n")
      | none => none)

/-- `s` followed by spaces up to `width` characters. -/
def padRight (s : String) (width : Nat) : String :=
  s ++ String.ofList (List.replicate (width - s.length) ' ')

/-- Prints the requirements found in the checkouts under `baseDir`. -/
def discover (src : Sources) (baseDir : String) (json : Bool) : Except String String := do
  let reqs ← (src.requirementsAt baseDir).mapError (·.message)
  if json then
    return (JsonValue.obj (reqs.entries.map fun (n, rs) => (n, .arr (rs.map .str)))).pretty 0 ++
      "\n"
  else if reqs.size == 0 then return "No plugin requirements found.\n"
  else return String.join (reqs.entries.map fun (n, rs) =>
    padRight n 32 ++ "  " ++ " ".intercalate rs ++ "\n")

/-- The step of a command that printed `out`, or failed. -/
def printed : Except String String → Step
  | .ok out => .finish { exit := 0, stdout := out }
  | .error msg => .finish (failure msg)

/-- What a command does. -/
def execute (src : Sources) : Command → Step
  | .write params output baseDir =>
    match writeConf src params output baseDir with
    | .ok step => step
    | .error msg => .finish (failure msg)
  | .orderVars params json => printed (orderVars src params json)
  | .orderPlugins params baseDir json => printed (orderPlugins src params baseDir json)
  | .discover baseDir json => printed (discover src baseDir json)

/-- What the command line does with the arguments `args` (without the program name). -/
def plan (src : Sources) (args : List String) : Step :=
  match parseArgs args with
  | .run _ cmd => execute src cmd
  | .help text => .finish { exit := 0, stdout := text }
  | .version => .finish { exit := 0, stdout := versionText }
  | .usage =>
    .finish { exit := 2,
              stderr := "error: unexpected arguments\n\n" ++
                "For more information, try \x27--help\x27.\n" }

/-- Runs the command line on a file tree: the outcome and the tree afterwards. -/
def run (t : FileTree) (args : List String) : Outcome × FileTree :=
  match plan (Sources.ofTree t) args with
  | .finish o => (o, t)
  | .write path text =>
    match t.writeFile path text.toUTF8.toList with
    | .ok t' => ({ exit := 0 }, t')
    | .error e => (writeFailure path e, t)

end DevstackConf.Cli
