import Std.Data.ExtTreeMap

/-!
# File trees

A file tree is a working directory in memory: a map from each entry's path, its names joined
by `/`, to what the entry is, a directory, a file with its bytes, or a symbolic link with its
target. The working directory itself is the empty path and is always a directory. Names are
strings, so a name whose bytes are not UTF-8 has no place in a tree, and entries carry no
permissions: every file in a tree can be read.

Paths are resolved name by name as a file system does. Empty names are skipped, `.` stays in
the directory reached so far, `..` steps back to its parent, and a symbolic link met before the
last name is replaced by its target, read relative to the link's directory. A name before the
last must reach a directory, so `f/.` names nothing when `f` is a file. The last name is
followed only when asked, and a path (or a link's target) ending in `/` is read as if `.`
followed it. Stepping back from the working directory reaches its parent, a directory of which
nothing else is known; such directories are written as lists of names that are all `..`, as a
normalised path keeps the `..` that nothing cancels. An absolute path names nothing. Resolving
gives up after 40 links, as a file system does.

Opening a file for writing creates it and resolves its last name differently: a last name `.`
or `..`, or one followed by `/`, can only be a directory, and a link at the last name is always
followed, to the file its target names or creates.

Failures are the file-system errors a program reports: no such entry, a file where a directory
was needed, a directory where a file was needed, and too many links; and, before the file system
is asked anything, a path holding a NUL character, which no system path can hold.
-/

namespace DevstackConf

/-- What a file-system operation ran into. -/
inductive FsError where
  /-- No such file or directory. -/
  | notFound
  /-- A file stood where a directory was needed. -/
  | notADirectory
  /-- A directory stood where a file was needed. -/
  | isADirectory
  /-- Too many symbolic links were met. -/
  | tooManyLinks
  /-- The path holds a NUL character, so it cannot be passed to the system. -/
  | nulInName
  /-- Any other error, by the operating system's number and text. -/
  | other (code : Nat) (text : String)
  deriving DecidableEq, Repr

namespace FsError

/-- The operating system's text for the error, with its number. -/
def message : FsError → String
  | notFound => "No such file or directory (os error 2)"
  | notADirectory => "Not a directory (os error 20)"
  | isADirectory => "Is a directory (os error 21)"
  | tooManyLinks => "Too many levels of symbolic links (os error 40)"
  | nulInName => "file name contained an unexpected NUL byte"
  | other code text => text ++ " (os error " ++ toString code ++ ")"

end FsError

/-- What an entry of a file tree is. -/
inductive Entry where
  /-- A directory. -/
  | dir
  /-- A regular file with its bytes. -/
  | file (bytes : List UInt8)
  /-- A symbolic link with its target. -/
  | link (target : String)
  deriving DecidableEq, Repr

/-- A working directory's contents, by path. -/
structure FileTree where
  /-- Every entry below the working directory, keyed by its names joined by `/`. -/
  entries : Std.ExtTreeMap String Entry compare := ∅

namespace FileTree

/-- The empty working directory. -/
def empty : FileTree := {}

/-- The names of a path: its parts between slashes, without empty ones. -/
def names (path : String) : List String := (path.splitOn "/").filter (· != "")

/-- The names resolved for a path: a path ending in `/` must reach a directory, as if `.`
followed it. -/
def pathNames (path : String) : List String :=
  if path.endsWith "/" then names path ++ ["."] else names path

/-- The key of a list of names. -/
def key (ns : List String) : String := "/".intercalate ns

/-- Whether a list of names is the working directory or one of the directories above it. -/
def isAncestor (ns : List String) : Bool := ns.all (· == "..")

/-- What stands at a list of names, taken literally. The working directory and the directories
above it are directories. -/
def entryAt (t : FileTree) (ns : List String) : Option Entry :=
  if isAncestor ns then some .dir else t.entries[key ns]?

/-- The parent of the directory at the literal names `ns`: one name fewer, or, from the working
directory or above it, one `..` more. -/
def parentOf (ns : List String) : List String :=
  if isAncestor ns then ns ++ [".."] else ns.dropLast

/-- The number of links a resolution may pass. -/
def linkLimit : Nat := 40

/-- Resolves `todo` from the directory `done` (literal names of directories), with `links`
links left to pass. Links before the last name are followed; the last is followed when
`followLast` is set. The result is the links left and the literal names of what the path
reaches, which need not exist. -/
def walkNames (t : FileTree) (followLast : Bool) :
    Nat → List String → List String → Except FsError (Nat × List String)
  | links, done, [] => .ok (links, done)
  | links, done, n :: rest =>
    if n == "." then walkNames t followLast links done rest
    else if n == ".." then walkNames t followLast links (parentOf done) rest
    else
      let here := done ++ [n]
      match t.entryAt here with
      | none => if rest.isEmpty then .ok (links, here) else .error .notFound
      | some .dir => walkNames t followLast links here rest
      | some (.file _) => if rest.isEmpty then .ok (links, here) else .error .notADirectory
      | some (.link target) =>
        if rest.isEmpty && !followLast then .ok (links, here)
        else if target.startsWith "/" then .error .notFound
        else
          match links with
          | 0 => .error .tooManyLinks
          | links + 1 => walkNames t followLast links done (pathNames target ++ rest)
termination_by links _done todo => (links, todo.length)

/-- The literal names a list of names reaches from the working directory. -/
def resolveNames (t : FileTree) (ns : List String) (followLast : Bool) :
    Except FsError (List String) :=
  (walkNames t followLast linkLimit [] ns).map (·.2)

/-- The literal names a path reaches. -/
def resolve (t : FileTree) (path : String) (followLast : Bool) : Except FsError (List String) :=
  if path.contains '\x00' then .error .nulInName
  else if path.startsWith "/" || path.isEmpty then .error .notFound
  else t.resolveNames (pathNames path) followLast

/-- What a path names, following links (`followLast`) or not. -/
def stat (t : FileTree) (path : String) (followLast : Bool) : Except FsError Entry :=
  match t.resolve path followLast with
  | .error e => .error e
  | .ok ns =>
    match t.entryAt ns with
    | none => .error .notFound
    | some e => .ok e

/-- Whether the path reaches a directory, links followed. -/
def isDir (t : FileTree) (path : String) : Bool :=
  match t.stat path true with
  | .ok .dir => true
  | _ => false

/-- Whether the path reaches a regular file, links followed. -/
def isFile (t : FileTree) (path : String) : Bool :=
  match t.stat path true with
  | .ok (.file _) => true
  | _ => false

/-- The bytes of the file a path reaches, links followed. -/
def fileBytes (t : FileTree) (path : String) : Except FsError (List UInt8) :=
  match t.stat path true with
  | .error e => .error e
  | .ok (.file bs) => .ok bs
  | .ok _ => .error .isADirectory

/-- The names directly inside the directory at the literal names `ns`, ascending. -/
def children (t : FileTree) (ns : List String) : List String :=
  let pre := if ns.isEmpty then "" else key ns ++ "/"
  t.entries.keys.filterMap fun k =>
    if pre.isPrefixOf k then
      let name := k.drop pre.length
      if name.contains '/' then none else some name.toString
    else none

/-- The literal names of the file that opening `path` from the directory `dir` for writing
reaches, with `links` links left to pass; the file need not exist yet. The names before the last
must reach a directory. A last name `.` or `..`, or one followed by `/`, asks for a directory,
which is refused before anything is looked up there; so is a directory at the last name. A link
at the last name is followed: its target is opened the same way from the link's directory. Each
round passes a link, so `fuel` above the links left is enough. -/
def createTarget (t : FileTree) : Nat → Nat → List String → String → Except FsError (List String)
  | 0, _, _, _ => .error .tooManyLinks
  | fuel + 1, links, dir, path =>
    let ns := names path
    match ns.getLast? with
    | none => .error .notFound
    | some last =>
      if path.startsWith "/" then .error .notFound
      else
        match t.walkNames true links dir (ns.dropLast ++ ["."]) with
        | .error e => .error e
        | .ok (links, parent) =>
          if last == "." || last == ".." || path.endsWith "/" then .error .isADirectory
          else
            let here := parent ++ [last]
            match t.entryAt here with
            | none => .ok here
            | some .dir => .error .isADirectory
            | some (.file _) => .ok here
            | some (.link target) =>
              match links with
              | 0 => .error .tooManyLinks
              | links + 1 => createTarget t fuel links parent target

/-- Writes a file at a path, as opening it for writing with creation does (see
`createTarget`): the file the path reaches is replaced, or made in its directory. -/
def writeFile (t : FileTree) (path : String) (bytes : List UInt8) : Except FsError FileTree :=
  if path.contains '\x00' then .error .nulInName
  else
    match t.createTarget (linkLimit + 1) linkLimit [] path with
    | .error e => .error e
    | .ok ns => .ok ⟨t.entries.insert (key ns) (.file bytes)⟩

/-- Makes the directory at `ns` and every missing directory above it. Existing directories and
links to directories are passed through; anything else in the way stops the making. -/
def makeDirs (t : FileTree) (ns : List String) : FileTree :=
  (List.range ns.length).foldl (fun t i =>
    match t.resolveNames (ns.take (i + 1)) true with
    | .ok real =>
      match t.entryAt real with
      | none =>
        match t.entryAt real.dropLast with
        | some .dir => ⟨t.entries.insert (key real) .dir⟩
        | _ => t
      | _ => t
    | .error _ => t) t

/-- Places a symbolic link at a path, making its parent directories. -/
def addLink (t : FileTree) (path target : String) : FileTree :=
  let ns := names path
  let t := t.makeDirs ns.dropLast
  match t.resolveNames ns.dropLast true, ns.getLast? with
  | .ok parent, some last =>
    match t.entryAt (parent ++ [last]) with
    | none => ⟨t.entries.insert (key (parent ++ [last])) (.link target)⟩
    | _ => t
  | _, _ => t

/-- Writes a file at a path, making its parent directories first. -/
def addFile (t : FileTree) (path : String) (bytes : List UInt8) : FileTree :=
  let t := t.makeDirs (names path).dropLast
  match t.writeFile path bytes with
  | .ok t => t
  | .error _ => t

end FileTree

end DevstackConf
