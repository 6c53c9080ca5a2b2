import FheSolidity.Command.Run

/-!
# The command

Reads the arguments and the metadata file, and carries out the plan that they lead to on the files
of the system.
-/

namespace FheSolidity

/-- The number of an error of the system, which some operations give with its sign changed. -/
def systemNumber (code : UInt32) : UInt32 :=
  if code < 0x80000000 then code else 0 - code

/-- The fault that a failed operation on a file amounts to, if it is one of those that are told
apart. -/
def faultOf? : IO.Error → Option FileFault
  | .noFileOrDirectory .. => some .notFound
  | .alreadyExists .. => some .alreadyExists
  | .inappropriateType _ code _ | .invalidArgument _ code _ =>
    [(20, FileFault.notDirectory), (21, .isDirectory), (22, .holdsNul), (36, .nameTooLong)].lookup
      (systemNumber code)
  | _ => none

/-- The line that reports a failed operation on a file. -/
def complaint (path : Path) (e : IO.Error) : String :=
  match faultOf? e with
  | some fault => "error: " ++ (RunFault.file path fault).message
  | none => "error: " ++ path.text ++ ": " ++ toString e

/-- Reads the text of a file. -/
def readText (path : Path) : IO (Except FileFault String) := do
  let content ← IO.FS.readBinFile path.text
  return match String.fromUTF8? content with
    | some text => .ok text
    | none => .error .notText

/-- Whether a path leads to a directory. -/
def leadsToDirectory (path : Path) : IO Bool := do
  match ← (IO.FS.realPath path.text).toBaseIO with
  | .ok place => place.isDir
  | .error _ => return false

/-- Makes a directory unless it is there. -/
def createMissing (path : Path) : IO Unit := do
  try
    IO.FS.createDir path.text
  catch e =>
    unless ← leadsToDirectory path do throw e

/-- Makes the first of some directories, of which each lies in the next, and those after it that are
missing. -/
def createDirectories : List Stage → IO Unit
  | [] => return
  | stage :: above => do
    match ← (createMissing stage.path).toBaseIO with
    | .ok _ => return
    | .error (.noFileOrDirectory ..) =>
      createDirectories above
      createMissing stage.path
    | .error e => throw e

/-- Writes a file, after the directories that its path asks for. -/
def writeText (path : Path) (content : String) : IO Unit := do
  createDirectories path.directories.reverse
  IO.FS.writeFile path.text content

/-- Carries out a plan, and gives the exit status. -/
def Plan.carryOut (plan : Plan) (filter : LogFilter) : IO UInt32 := do
  for note in plan.notes do
    IO.eprint (note.render filter)
  for (path, content) in plan.files do
    try
      writeText path content
    catch e =>
      IO.eprintln (complaint path e)
      return 1
    IO.eprint ((Note.event (wroteEvent path content)).render filter)
  match plan.outcome with
  | .ok text =>
    IO.print text
    return 0
  | .error fault =>
    IO.eprint ((faultNote fault).render filter)
    return 1

/-- Runs the command with some options. -/
def Options.carryOut (o : Options) : IO UInt32 := do
  let filter := LogFilter.choose o.verbosity (← IO.getEnv "RUST_LOG")
  match ← (readText o.metadata).toBaseIO with
  | .ok text => (o.plan text).carryOut filter
  | .error e =>
    match faultOf? e with
    | some fault => (o.plan (.error fault)).carryOut filter
    | none =>
      IO.eprintln (complaint o.metadata e)
      return 1

end FheSolidity

open FheSolidity

/-- Runs the command with the arguments of the process. -/
def main (arguments : List String) : IO UInt32 := do
  match Options.read arguments with
  | .ok o => o.carryOut
  | .error .help =>
    IO.print helpText
    return 0
  | .error .version =>
    IO.print versionText
    return 0
  | .error stop =>
    IO.eprint stop.complaint
    return 2
