import FheSolidity.Command.Help
import FheSolidity.Command.Log
import FheSolidity.Command.Plan

/-!
# Runs of the command

A run on a tree of files: its exit status, what it prints, what it reports on the side, and the tree
that it leaves behind. Status 0 is success, 1 a failing run, and 2 arguments that ask for no run.
-/

namespace FheSolidity

/-- What a run leaves behind. -/
structure Report where
  /-- The exit status. -/
  exit : Nat
  /-- What is printed. -/
  output : String
  /-- What is reported on the side. -/
  notes : List Note
  /-- The files afterwards. -/
  tree : FileTree

/-- The note about why a run fails. -/
def faultNote (fault : RunFault) : Note :=
  .line ("error: " ++ fault.message)

/-- A plan carried out on a tree of files. -/
def Plan.perform (plan : Plan) (t : FileTree) : Report :=
  let writing := t.writeAll plan.files
  let notes := plan.notes ++ writing.events.map .event
  match writing.fault, plan.outcome with
  | some (path, fault), _ => ⟨1, "", notes ++ [faultNote (.file path fault)], writing.tree⟩
  | none, .error fault => ⟨1, "", notes ++ [faultNote fault], writing.tree⟩
  | none, .ok text => ⟨0, text, notes, writing.tree⟩

/-- A run with some options on a tree of files. -/
def Options.run (o : Options) (t : FileTree) : Report :=
  (o.plan (t.read o.metadata)).perform t

/-- What is written to the error stream. -/
def Note.render (filter : LogFilter) : Note → String
  | event e => if filter.admits e then e.line ++ "\n" else ""
  | line text => text ++ "\n"

/-- The complaint about arguments that ask for no run. -/
def UsageStop.complaint : UsageStop → String
  | unknownArgument => "error: unexpected argument found\n"
  | invalidValue => "error: invalid value for an option\n"
  | conflict => "error: an option cannot be used with another one, or twice\n"
  | tooManyValues => "error: unexpected value for a flag\n"
  | help | version => ""

/-- What a run of the whole command comes to. -/
structure CommandOutcome where
  /-- The exit status. -/
  exit : Nat
  /-- What is written to the output stream. -/
  output : String
  /-- What is written to the error stream. -/
  errors : String
  /-- The files afterwards. -/
  tree : FileTree

/-- A run of the command with some arguments, on a tree of files, with the log level that the
environment names if it names one. -/
def runCommand (arguments : List String) (logWord : Option String) (t : FileTree) :
    CommandOutcome :=
  match Options.read arguments with
  | .error .help => ⟨0, helpText, "", t⟩
  | .error .version => ⟨0, versionText, "", t⟩
  | .error stop => ⟨2, "", stop.complaint, t⟩
  | .ok o =>
    let report := o.run t
    let filter := LogFilter.choose o.verbosity logWord
    ⟨report.exit, report.output, String.join (report.notes.map (Note.render filter)),
      report.tree⟩

end FheSolidity
