import DevstackConf.Params
import DevstackConf.Variables
import DevstackConf.Plugins.Basic
import DevstackConf.Plugins.Discovery
import DevstackConf.Text.Escape

/-!
# Laying out the configuration file

The file has a shell-variable section followed by one section per phase and configuration file.
The shell-variable lines come in this order:

1. `enable_plugin NAME SOURCE` for each plugin with a source, every plugin after the plugins it
   requires (requirements come from the checkouts under the parameters' directory of checkouts,
   and a settings file there that cannot be read ends the layout);
2. the services: `ENABLED_SERVICES=a,b` for the base services, unless the `base` switch is off
   or there are none, in which case `disable_all_services`; then `enable_service NAME` or
   `disable_service NAME` for each service whose setting is an on/off switch;
3. the shell variables, every variable after those it refers to, each value in double quotes
   unless it already starts with one;
4. `LIBS_FROM_GIT=…` listing the short names of the required projects and of the project under
   test, unless a shell variable of that name was given;
5. `TEMPEST_PLUGINS="…"` with the test plugin checkouts under the directory of checkouts, unless
   a shell variable of that name was given, in which case the request is dropped with a warning.

Each further section is headed `[[phase|file]]` and lists, per configuration section, a
`[section]` line, one `key = value` line per setting and an empty line. A later section with
the same heading replaces the content of the earlier one in its place.
-/

namespace DevstackConf

/-- Why the file could not be laid out. -/
inductive RenderError where
  /-- The plugins could not be ordered. -/
  | plugins (e : PluginError)
  /-- The shell variables could not be ordered. -/
  | variables (e : GraphError)

namespace RenderError

/-- The text of the error. -/
def message : RenderError → String
  | .plugins e => "Plugin ordering failed: " ++ e.message
  | .variables e => "Variable ordering failed: " ++ e.message

/-- The ordering error behind it, if an ordering failed. -/
def cause : RenderError → Option GraphError
  | .plugins (.graph e) => some e
  | .plugins (.discovery _) => none
  | .variables e => some e

end RenderError

/-- A laid-out configuration file. -/
structure LocalConf where
  /-- The lines of the shell-variable section. -/
  localrc : List String := []
  /-- The further sections: heading and lines, in order. -/
  metaSections : Dict (List String) := Dict.empty
  /-- Requests that were not carried out. -/
  warnings : List String := []

/-- `base` joined with `rel`: an absolute `rel` stands alone; otherwise a separator goes
between them unless `base` is empty or already ends with one. -/
def joinPath (base rel : String) : String :=
  if rel.startsWith "/" then rel
  else if base.isEmpty || base.endsWith "/" then base ++ rel
  else base ++ "/" ++ rel

/-- A shell value in double quotes, unless it already starts with one. -/
def shellQuote (v : String) : String := if v.startsWith "\"" then v else "\"" ++ v ++ "\""

/-- The short names of the required projects, in order, then that of the project under test
if it is not among them. -/
def requiredProjects (projects : Option (Dict ProjectInfo)) (project : Option ProjectInfo) :
    List String :=
  let names := ((projects.map (·.entries)).getD []).filterMap fun (_, info) =>
    if info.required then info.shortName else none
  match project.bind (·.shortName) with
  | some n => if names.contains n then names else names ++ [n]
  | none => names

/-- The shell variables of the parameters in dependency order, each with its text. -/
def Params.orderedVariables (p : Params) : Except RenderError (List (String × String)) :=
  let vars := (p.localrc.map (·.entries)).getD []
  if vars.isEmpty then pure [] else
    match Variables.order vars with
    | .error e => throw (.variables e)
    | .ok cat => match cat.ordered with
      | .error e => throw (.variables e)
      | .ok xs => pure xs

/-- The plugin requirements found under the parameters' directory of checkouts by
`requirementsAt`; with no such directory no plugin requires anything. -/
def Params.pluginRequirements (p : Params)
    (requirementsAt : String → Except DiscoveryError Requirements) :
    Except DiscoveryError Requirements :=
  match p.baseDir with
  | some dir => requirementsAt dir
  | none => .ok Requirements.empty

namespace LocalConf

/-- Adds a line to the shell-variable section. -/
def push (c : LocalConf) (line : String) : LocalConf := { c with localrc := c.localrc ++ [line] }

/-- Enables the plugins with a source, each after the plugins it requires. -/
def addPlugins (c : LocalConf) (reqs : Requirements) (plugins : Dict Scalar) :
    Except RenderError LocalConf :=
  match Plugins.order reqs (Plugins.sources plugins).entries with
  | .error e => .error (.plugins (.graph e))
  | .ok cat =>
    match cat.ordered with
    | .error e => .error (.plugins (.graph e))
    | .ok xs => .ok (xs.foldl (fun c (n, src) => match src with
        | some s => if s.isEmpty then c else c.push ("enable_plugin " ++ n ++ " " ++ s)
        | none => c) c)

/-- Enables the base services unless switched off, then switches single services. -/
def addServices (c : LocalConf) (base : List String) (services : Dict Scalar) : LocalConf :=
  let enableBase := match services.get? "base" with
    | some v => v.switch?.getD v.truthy
    | none => true
  let c := if enableBase && !base.isEmpty then c.push ("ENABLED_SERVICES=" ++ ",".intercalate base)
    else c.push "disable_all_services"
  (services.erase "base").entries.foldl (fun c (n, v) => match v.switch? with
    | some false => c.push ("disable_service " ++ n)
    | some true => c.push ("enable_service " ++ n)
    | none => c) c

/-- Adds the shell variables, given in order, then the project list and the test plugins unless
given as variables. -/
def addOrderedVariables (c : LocalConf) (p : Params) (ordered : List (String × String)) :
    LocalConf :=
  let c := ordered.foldl (fun c (n, v) => c.push (n ++ "=" ++ shellQuote v)) c
  let libsGiven := ordered.any (·.1 == "LIBS_FROM_GIT")
  let tempestGiven := (ordered.find? (·.1 == "TEMPEST_PLUGINS")).map (·.2)
  let libs := requiredProjects p.projects p.project
  let c := if libsGiven || libs.isEmpty then c
    else c.push ("LIBS_FROM_GIT=" ++ ",".intercalate libs)
  let requested := p.tempestPlugins.getD []
  if requested.isEmpty then c
  else match tempestGiven with
    | none =>
      let dirs := requested.map fun plugin => match p.baseDir with
        | some base => joinPath base plugin
        | none => plugin
      c.push ("TEMPEST_PLUGINS=\"" ++ " ".intercalate dirs ++ "\"")
    | some existing =>
      { c with warnings := c.warnings ++ ["TEMPEST_PLUGINS already defined (" ++ existing ++
        "), requested value " ++ Text.quoteList requested ++ " ignored"] }

/-- Adds the shell variables in dependency order, then the project list and the test plugins
unless given as variables. -/
def addVariables (c : LocalConf) (p : Params) : Except RenderError LocalConf := do
  return c.addOrderedVariables p (← p.orderedVariables)

/-- The lines of one configuration file's sections. -/
def sectionLines (sections : Dict (Dict Scalar)) : List String :=
  sections.entries.flatMap fun (name, pairs) =>
    ["[" ++ name ++ "]"] ++ pairs.entries.map (fun (k, v) => k ++ " = " ++ v.display) ++ [""]

/-- Adds a section per phase and configuration file. -/
def addMetaSections (c : LocalConf) (m : MetaSections) : LocalConf :=
  m.entries.foldl (fun c (phase, files) =>
    files.entries.foldl (fun c (file, sections) =>
      { c with metaSections :=
          c.metaSections.insert ("[[" ++ phase ++ "|" ++ file ++ "]]") (sectionLines sections) })
      c) c

/-- Lays out the file described by the parameters; `requirementsAt dir` gives the plugin
requirements found in the checkouts under `dir`, or why they could not be read. The checkouts
are read only when some plugin is requested. -/
def build (requirementsAt : String → Except DiscoveryError Requirements) (p : Params) :
    Except RenderError LocalConf := do
  let c : LocalConf := {}
  let plugins := p.plugins.getD Dict.empty
  let c ← if plugins.isEmpty then pure c else do
    let reqs ← (p.pluginRequirements requirementsAt).mapError fun e => .plugins (.discovery e)
    c.addPlugins reqs plugins
  let base := p.baseServices.getD []
  let services := p.services.getD Dict.empty
  let c := if services.isEmpty && base.isEmpty then c else c.addServices base services
  let c ← c.addVariables p
  return match p.localConf with
    | some m => c.addMetaSections m
    | none => c

/-- The text of the file. -/
def text (c : LocalConf) : String :=
  "[[local|localrc]]\n" ++ "\n".intercalate c.localrc ++ "\n\n" ++
    String.join (c.metaSections.entries.map fun (header, lines) =>
      header ++ "\n" ++ "\n".intercalate lines)

end LocalConf

end DevstackConf
