import DevstackConf.FileTree.Basic
import DevstackConf.Plugins.Basic
import DevstackConf.Plugins.Settings
import DevstackConf.Text.Utf8

/-!
# Discovering plugin requirements in checkouts

A checkout is a real directory (not a symbolic link) holding a `.git` directory, the `.git` entry
itself possibly a link. Discovery walks the tree below a base path depth first, the base first and
the entries of each directory in ascending name order, without following links (a base that is a
link to a directory is still entered). The walk does not go below a checkout. A checkout's
`devstack/settings` file, when it is a regular file (links followed), is read, with ill-formed
UTF-8 replaced, and its requirements are recorded; a later checkout replaces an earlier record of
the same plugin.

`discover` is discovery as the program runs it: a settings file that cannot be read ends it
with an error naming the file. `requirements` records what every readable settings file holds
and passes over the others; on a file tree every settings file the walk lists can be read, so the
two agree there.
-/

namespace DevstackConf

/-- Why discovering plugin requirements failed. -/
inductive DiscoveryError where
  /-- The settings file at `path` could not be read. -/
  | read (path : String) (error : FsError)
  deriving DecidableEq, Repr

/-- The text of a discovery error. -/
def DiscoveryError.message : DiscoveryError → String
  | .read path e => "Failed to read plugin settings " ++ path ++ ": " ++ e.message

/-- Why the requested plugins could not be put in order: their requirements could not be read,
or the requirements make no order. -/
inductive PluginError where
  /-- The requirements under the directory of checkouts could not be read. -/
  | discovery (e : DiscoveryError)
  /-- The plugins could not be ordered. -/
  | graph (e : GraphError)
  deriving DecidableEq, Repr

/-- The text of the error, that of its cause. -/
def PluginError.message : PluginError → String
  | .discovery e => e.message
  | .graph e => e.message

namespace Discovery

/-- The path of a child entry: the parent's path and the child's name, with one `/` between. -/
def childPath (parent name : String) : String :=
  if parent.endsWith "/" then parent ++ name else parent ++ "/" ++ name

/-- The settings files of the checkouts at or below the directory `path` (whose literal names
are `ns`), in walk order. Each level of nesting uses one unit of fuel. -/
def settingsBelow (t : FileTree) : Nat → String → List String → List String
  | 0, _, _ => []
  | fuel + 1, path, ns =>
    (t.children ns).flatMap fun name =>
      let child := childPath path name
      match t.entryAt (ns ++ [name]) with
      | some .dir =>
        if t.isDir (childPath child ".git") then
          let settings := childPath (childPath child "devstack") "settings"
          if t.isFile settings then [settings] else []
        else settingsBelow t fuel child (ns ++ [name])
      | _ => []

/-- The settings files of the checkouts reached from `base`, in walk order. -/
def checkoutSettings (t : FileTree) (base : String) : List String :=
  let fuel := t.entries.size + 1
  match t.stat base false with
  | .ok .dir =>
    if t.isDir (childPath base ".git") then
      let settings := childPath (childPath base "devstack") "settings"
      if t.isFile settings then [settings] else []
    else
      match t.resolve base false with
      | .ok ns => settingsBelow t fuel base ns
      | .error _ => []
  | .ok (.link _) =>
    match t.resolve base true with
    | .ok ns =>
      match t.entryAt ns with
      | some .dir => settingsBelow t fuel base ns
      | _ => []
    | .error _ => []
  | _ => []

/-- Records what the settings file read as `bytes` requires, with ill-formed UTF-8 replaced. -/
def recordSettings (reqs : Requirements) (bytes : List UInt8) : Requirements :=
  match Settings.parse (Text.decodeLossy bytes) with
  | some (n, requires) => reqs.insert n requires
  | none => reqs

/-- The requirements recorded in the checkouts reached from `base`, a settings file that cannot
be read passed over. -/
def requirements (t : FileTree) (base : String) : Requirements :=
  (checkoutSettings t base).foldl (fun reqs path =>
    match t.fileBytes path with
    | .ok bytes => recordSettings reqs bytes
    | .error _ => reqs) Requirements.empty

/-- Reads the settings file at `path` and records what it requires; a file that cannot be read
fails, naming it. -/
def recordFile (t : FileTree) (reqs : Requirements) (path : String) :
    Except DiscoveryError Requirements :=
  match t.fileBytes path with
  | .ok bytes => .ok (recordSettings reqs bytes)
  | .error e => .error (.read path e)

/-- The requirements recorded in the checkouts reached from `base`, read in walk order; the first
settings file that cannot be read ends discovery. -/
def discover (t : FileTree) (base : String) : Except DiscoveryError Requirements :=
  (checkoutSettings t base).foldlM (recordFile t) Requirements.empty

end Discovery

end DevstackConf
