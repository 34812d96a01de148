/-!
# Command-line arguments

The command line has three commands, `write`, `order` (with `vars` and `plugins`) and
`discover`, and a `help` command. Arguments are read from left to right:

* `-v` / `--verbose` may be given anywhere, any number of times, also in clusters (`-vv`);
* `-h` / `--help` stops reading and asks for the help of the command read so far, and
  `-V` / `--version` does the same for the version, before any command;
* an option taking a value takes it after `=` or as the next argument, which must not be empty
  and must not look like an option (a lone `-` is a value); no option may be given twice;
* after `--` every argument is positional;
* anything else that is not expected, or a required option or argument that is missing, is a
  usage error.

`help` followed by command names prints the help text of the command they lead to, `help`
itself included. A help text lists the options of a command by their place: the command's own
options in the order they are declared, the verbosity option among the first, help and version
last.
-/

namespace DevstackConf.Cli

/-- What a run of the command line asks for. -/
inductive Command where
  /-- Render the configuration file. -/
  | write (params : String) (output baseDir : Option String)
  /-- Print the shell variables in order. -/
  | orderVars (params : String) (json : Bool)
  /-- Print the plugins in order. -/
  | orderPlugins (params : String) (baseDir : Option String) (json : Bool)
  /-- Print the requirements found in checkouts. -/
  | discover (baseDir : String) (json : Bool)
  deriving Inhabited

/-- How the arguments were understood. -/
inductive Invocation where
  /-- Run a command at a log verbosity. -/
  | run (verbosity : Nat) (cmd : Command)
  /-- Print a help text. -/
  | help (text : String)
  /-- Print the version. -/
  | version
  /-- The arguments do not fit; nothing runs. -/
  | usage
  deriving Inhabited

/-- The program name and version. -/
def versionText : String := "localconf 0.1.0\n"

/-- A section of a help text: a heading, then one row per name with its description, the
descriptions lined up two spaces after the longest name. -/
def helpSection (heading : String) (rows : List (String × String)) : String :=
  let width := rows.foldl (fun w (n, _) => max w n.length) 0
  heading ++ ":\n" ++ String.join (rows.map fun (n, d) =>
    "  " ++ n ++ String.ofList (List.replicate (width - n.length + 2) ' ') ++ d ++ "\n")

/-- A row of an options section with where it is listed: options are listed by `position`, and
options of one position by `key`. -/
structure OptionRow where
  /-- The place among the options: a command's own options count from zero in the order they
  are declared, the verbosity option of the program has place zero, and help and version come
  last. -/
  position : Nat
  /-- The short letter followed by `0` (lower case) or `1` (upper case), else the long name. -/
  key : String
  /-- The name and the description. -/
  row : String × String

/-- The place of the help and version options: after every other. -/
def lastPosition : Nat := 1000

/-- The options section of a help text. -/
def optionsSection (rows : List OptionRow) : String :=
  helpSection "Options" ((rows.mergeSort fun a b =>
    a.position < b.position || (a.position == b.position && a.key ≤ b.key)).map (·.row))

/-- The row of the verbosity option, which every command accepts. -/
def verboseRow : OptionRow :=
  ⟨0, "v0", ("-v, --verbose...", "Increase log verbosity (-v info, -vv debug, -vvv trace)")⟩

/-- The row of the help option. -/
def helpRow : OptionRow := ⟨lastPosition, "h0", ("-h, --help", "Print help")⟩

/-- The row of the version option. -/
def versionRow : OptionRow := ⟨lastPosition, "v1", ("-V, --version", "Print version")⟩

/-- The row of the `help` command of a command with commands. -/
def helpCommandRow : String × String :=
  ("help", "Print this message or the help of the given subcommand(s)")

/-- The row of the `--params` option at a place. -/
def paramsRow (position : Nat) : OptionRow :=
  ⟨position, "params", ("    --params <PARAMS>", "YAML or JSON parameter file")⟩

/-- The row of the `--base-dir` option at a place. -/
def baseDirRow (position : Nat) : OptionRow :=
  ⟨position, "base-dir", ("    --base-dir <BASE_DIR>", "Directory holding plugin checkouts")⟩

/-- The row of the `--json` switch at a place. -/
def jsonRow (position : Nat) : OptionRow :=
  ⟨position, "json", ("    --json", "Print JSON instead of text")⟩

/-- A help text: what the command does, how it is called, and its sections. -/
def helpText (about usage : String) (sections : List String) : String :=
  about ++ "\n\nUsage: localconf " ++ usage ++ "\n\n" ++ "\n".intercalate sections

/-- The help text of the program. -/
def mainHelp : String :=
  helpText "Dependency-ordered devstack local.conf generator" "[OPTIONS] <COMMAND>"
    [helpSection "Commands"
      [("write", "Render a local.conf"),
       ("order", "Print the resolved order of variables or plugins"),
       ("discover", "Print plugin requirements declared by checkouts under a directory"),
       helpCommandRow],
     optionsSection [verboseRow, helpRow, versionRow]]

/-- The help text of `write`. -/
def writeHelp : String :=
  helpText "Render a local.conf" "write [OPTIONS] --params <PARAMS>"
    [optionsSection
      [paramsRow 0,
       ⟨1, "output", ("    --output <OUTPUT>",
        "Output path (defaults to \x60path\x60 in the parameters, else stdout)")⟩,
       baseDirRow 2, verboseRow, helpRow]]

/-- The help text of `order`. -/
def orderHelp : String :=
  helpText "Print the resolved order of variables or plugins" "order [OPTIONS] <COMMAND>"
    [helpSection "Commands"
      [("vars", "localrc variables"), ("plugins", "devstack plugins"), helpCommandRow],
     optionsSection [verboseRow, helpRow]]

/-- The help text of `order vars`. -/
def varsHelp : String :=
  helpText "localrc variables" "order vars [OPTIONS] --params <PARAMS>"
    [optionsSection [paramsRow 0, jsonRow 1, verboseRow, helpRow]]

/-- The help text of `order plugins`. -/
def pluginsHelp : String :=
  helpText "devstack plugins" "order plugins [OPTIONS] --params <PARAMS>"
    [optionsSection [paramsRow 0, baseDirRow 1, jsonRow 2, verboseRow, helpRow]]

/-- The help text of `discover`. -/
def discoverHelp : String :=
  helpText "Print plugin requirements declared by checkouts under a directory"
    "discover [OPTIONS] <BASE_DIR>"
    [helpSection "Arguments" [("<BASE_DIR>", "Directory holding plugin checkouts")],
     optionsSection [jsonRow 0, verboseRow, helpRow]]

/-- The help text of the `help` command reached by `path` (such as `order help`). -/
def helpCommandHelp (path : String) : String :=
  "Print this message or the help of the given subcommand(s)\n\nUsage: localconf " ++ path ++
    " [COMMAND]...\n\nArguments:\n  [COMMAND]...  Print help for the subcommand(s)\n"

/-- The commands as a tree of help texts: each command's help and its commands by name. -/
inductive HelpTree where
  /-- A command with its help text and its commands. -/
  | node (text : String) (children : List (String × HelpTree))

/-- The help text of the command reached from the root of a tree by a path of command names. -/
def HelpTree.find : HelpTree → List String → Option String
  | .node text _, [] => some text
  | .node _ children, name :: rest =>
    match children.lookup name with
    | some child => child.find rest
    | none => none

/-- The commands of `order`. -/
def orderTree : HelpTree :=
  .node orderHelp [("vars", .node varsHelp []), ("plugins", .node pluginsHelp []),
    ("help", .node (helpCommandHelp "order help") [])]

/-- The commands of the program. -/
def commandTree : HelpTree :=
  .node mainHelp [("write", .node writeHelp []), ("order", orderTree),
    ("discover", .node discoverHelp []), ("help", .node (helpCommandHelp "help") [])]

/-- An option of a command, by its long name, and whether it takes a value. -/
structure OptionSpec where
  /-- The long name, without the leading dashes. -/
  name : String
  /-- Whether the option takes a value (else it is a switch). -/
  takesValue : Bool

/-- What was given to a command. -/
structure Given where
  /-- Options with values, latest first. -/
  values : List (String × String) := []
  /-- Switches given. -/
  flags : List String := []
  /-- Positional arguments, in order. -/
  positionals : List String := []
  /-- How often `-v` was given. -/
  verbosity : Nat := 0
  /-- Whether `--` was seen. -/
  onlyPositional : Bool := false

/-- Why reading stopped early. -/
inductive Stop where
  /-- A usage error. -/
  | usage
  /-- A request for help. -/
  | help

/-- Splits `name=value` at the first `=`. -/
def splitAssignment (s : String) : String × Option String :=
  match s.toList.span (· != '=') with
  | (name, []) => (String.ofList name, none)
  | (name, _ :: value) => (String.ofList name, some (String.ofList value))

/-- Whether an argument looks like an option rather than a value. -/
def looksLikeOption (s : String) : Bool := s.startsWith "-" && s != "-"

/-- Reads a short option cluster such as `-vv`: each letter is `v` (counted) or `h` (help). -/
def shortCluster (g : Given) : List Char → Except Stop Given
  | [] => .ok g
  | 'v' :: rest => shortCluster { g with verbosity := g.verbosity + 1 } rest
  | 'h' :: _ => .error .help
  | _ :: _ => .error .usage

/-- Reads the arguments of a command that takes `options` and up to `positionals` positional
arguments. -/
def readCommand (options : List OptionSpec) (positionals : Nat) :
    List String → Given → Except Stop Given
  | [], g => .ok g
  | tok :: rest, g =>
    let positional (g : Given) : Except Stop Given :=
      if tok.isEmpty || g.positionals.length ≥ positionals then .error .usage
      else .ok { g with positionals := g.positionals ++ [tok] }
    if g.onlyPositional then
      match positional g with
      | .ok g => readCommand options positionals rest g
      | .error e => .error e
    else if tok == "--" then readCommand options positionals rest { g with onlyPositional := true }
    else if tok == "--help" then .error .help
    else if tok.startsWith "--" then
      let (name, inline) := splitAssignment (String.ofList (tok.toList.drop 2))
      if name == "verbose" then
        if inline.isSome then .error .usage
        else readCommand options positionals rest { g with verbosity := g.verbosity + 1 }
      else
        match options.find? (·.name == name) with
        | none => .error .usage
        | some o =>
          if o.takesValue then
            if g.values.any (·.1 == name) then .error .usage
            else match inline with
              | some v =>
                if v.isEmpty then .error .usage
                else readCommand options positionals rest { g with values := (name, v) :: g.values }
              | none =>
                match rest with
                | v :: rest' =>
                  if v.isEmpty || looksLikeOption v then .error .usage
                  else
                    readCommand options positionals rest' { g with values := (name, v) :: g.values }
                | [] => .error .usage
          else if inline.isSome || g.flags.contains name then .error .usage
          else readCommand options positionals rest { g with flags := name :: g.flags }
    else if looksLikeOption tok then
      match shortCluster g (tok.toList.drop 1) with
      | .ok g => readCommand options positionals rest g
      | .error e => .error e
    else
      match positional g with
      | .ok g => readCommand options positionals rest g
      | .error e => .error e

/-- The value of an option. -/
def Given.value? (g : Given) (name : String) : Option String :=
  (g.values.find? (·.1 == name)).map (·.2)

/-- Whether a switch was given. -/
def Given.flag (g : Given) (name : String) : Bool := g.flags.contains name

/-- Reads a command's arguments and builds it, or stops with its help text or a usage error. -/
def runCommand (verbosity : Nat) (options : List OptionSpec) (positionals : Nat) (helpText : String)
    (build : Given → Option Command) (args : List String) : Invocation :=
  match readCommand options positionals args { verbosity } with
  | .error .help => .help helpText
  | .error .usage => .usage
  | .ok g => match build g with
    | some cmd => .run g.verbosity cmd
    | none => .usage

/-- The `--params` option. -/
def paramsOption : OptionSpec := ⟨"params", true⟩

/-- The `--base-dir` option. -/
def baseDirOption : OptionSpec := ⟨"base-dir", true⟩

/-- The `--json` switch. -/
def jsonSwitch : OptionSpec := ⟨"json", false⟩

/-- Reads `write`. -/
def writeCommand (verbosity : Nat) : List String → Invocation :=
  runCommand verbosity [paramsOption, ⟨"output", true⟩, baseDirOption] 0 writeHelp fun g =>
    (g.value? "params").map fun p => .write p (g.value? "output") (g.value? "base-dir")

/-- Reads `order vars`. -/
def varsCommand (verbosity : Nat) : List String → Invocation :=
  runCommand verbosity [paramsOption, jsonSwitch] 0 varsHelp fun g =>
    (g.value? "params").map fun p => .orderVars p (g.flag "json")

/-- Reads `order plugins`. -/
def pluginsCommand (verbosity : Nat) : List String → Invocation :=
  runCommand verbosity [paramsOption, baseDirOption, jsonSwitch] 0 pluginsHelp fun g =>
    (g.value? "params").map fun p => .orderPlugins p (g.value? "base-dir") (g.flag "json")

/-- Reads `discover`. -/
def discoverCommand (verbosity : Nat) : List String → Invocation :=
  runCommand verbosity [jsonSwitch] 1 discoverHelp fun g =>
    g.positionals.head?.map fun b => .discover b (g.flag "json")

/-- Reads the arguments after `order`. -/
def orderCommand (verbosity : Nat) : List String → Invocation
  | [] => .usage
  | tok :: rest =>
    if tok == "vars" then varsCommand verbosity rest
    else if tok == "plugins" then pluginsCommand verbosity rest
    else if tok == "help" then
      match orderTree.find rest with
      | some text => .help text
      | none => .usage
    else if tok == "--help" then .help orderHelp
    else if tok == "--verbose" then orderCommand (verbosity + 1) rest
    else if looksLikeOption tok && !tok.startsWith "--" then
      match shortCluster { verbosity } (tok.toList.drop 1) with
      | .ok g => orderCommand g.verbosity rest
      | .error .help => .help orderHelp
      | .error .usage => .usage
    else .usage

/-- Reads a short option cluster before the command: `v`, `h` or `V`. -/
def topCluster (verbosity : Nat) : List Char → Except Invocation Nat
  | [] => .ok verbosity
  | 'v' :: rest => topCluster (verbosity + 1) rest
  | 'h' :: _ => .error (.help mainHelp)
  | 'V' :: _ => .error .version
  | _ :: _ => .error .usage

/-- Reads the command line (without the program name). -/
def parseArgs (args : List String) : Invocation := go 0 args
where
  /-- Reads up to the command. -/
  go (verbosity : Nat) : List String → Invocation
    | [] => .usage
    | tok :: rest =>
      if tok == "write" then writeCommand verbosity rest
      else if tok == "order" then orderCommand verbosity rest
      else if tok == "discover" then discoverCommand verbosity rest
      else if tok == "help" then
        match commandTree.find rest with
        | some text => .help text
        | none => .usage
      else if tok == "--help" then .help mainHelp
      else if tok == "--version" then .version
      else if tok == "--verbose" then go (verbosity + 1) rest
      else if looksLikeOption tok && !tok.startsWith "--" then
        match topCluster verbosity (tok.toList.drop 1) with
        | .ok v => go v rest
        | .error i => i
      else .usage

end DevstackConf.Cli
