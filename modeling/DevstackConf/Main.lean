import DevstackConf.Cli.Run

/-!
# The command-line program

`main` reads the parameter file named on the command line, decides what the command does with
`Cli.plan`, prints what it printed, writes the configuration file when the command ends with a
write, and exits with the command's status.

Files are read and written by name only: the program lists no directory, so the checkouts it
shows a command hold no plugin requirements. A file tree of the checkouts would need the targets
of their symbolic links, which the input and output of this library cannot read; what the
commands do with checkouts is the behaviour of `Cli.run` over a file tree.
-/

namespace DevstackConf.Cli

/-- The parameter file a command reads. -/
def Command.paramsPath? : Command → Option String
  | .write p _ _ => some p
  | .orderVars p _ => some p
  | .orderPlugins p _ _ => some p
  | .discover _ _ => none

/-- The operating system's number of an input or output error, with its text. -/
def osError : IO.Error → Nat × String
  | .alreadyExists _ c d | .otherError c d | .resourceBusy c d | .resourceVanished c d
  | .unsupportedOperation c d | .hardwareFault c d | .unsatisfiedConstraints c d
  | .illegalOperation c d | .protocolError c d | .timeExpired c d | .interrupted _ c d
  | .noFileOrDirectory _ c d | .invalidArgument _ c d | .permissionDenied _ c d
  | .resourceExhausted _ c d | .inappropriateType _ c d | .noSuchThing _ c d => (c.toNat, d)
  | .unexpectedEof => (0, "end of file")
  | .userError msg => (0, msg)

/-- The file-system error an input or output error stands for. -/
def fsError (e : IO.Error) : FsError :=
  match osError e with
  | (2, _) => .notFound
  | (20, _) => .notADirectory
  | (21, _) => .isADirectory
  | (40, _) => .tooManyLinks
  | (code, text) => .other code text

/-- What the program shows a command: the parameter file named by the arguments, if any. -/
def realSources (args : List String) : IO Sources := do
  let named := match parseArgs args with
    | .run _ cmd => cmd.paramsPath?
    | _ => none
  let contents ← match named with
    | some path => do
      match ← (IO.FS.readBinFile path).toBaseIO with
      | .ok bytes => pure (some (path, Except.ok bytes.toList))
      | .error e => pure (some (path, Except.error (fsError e)))
    | none => pure none
  return { readFile := fun p => match contents with
             | some (path, r) => if p == path then r else .error .notFound
             | none => .error .notFound,
           requirementsAt := fun _ => .ok Requirements.empty }

/-- Carries out a step: prints, writes, and gives the exit status. -/
def perform : Step → IO UInt32
  | .finish o => do
    IO.print o.stdout
    IO.eprint o.stderr
    return o.exit.toUInt32
  | .write path text => do
    match ← (IO.FS.writeBinFile path text.toUTF8).toBaseIO with
    | .ok () => return 0
    | .error e =>
      IO.eprint (writeFailure path (fsError e)).stderr
      return 1

end DevstackConf.Cli

/-- Runs the command line. -/
def main (args : List String) : IO UInt32 := do
  let src ← DevstackConf.Cli.realSources args
  DevstackConf.Cli.perform (DevstackConf.Cli.plan src args)
