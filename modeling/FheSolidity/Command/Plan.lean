import FheSolidity.Command.Options
import FheSolidity.Metadata.Document
import FheSolidity.Output.Store
import FheSolidity.Output.Writing

/-!
# Plans of the command

What a run does once the metadata file has been read: what it reports, the files that it writes, and
what it prints if they can all be written. A run that fails before that writes nothing.
-/

namespace FheSolidity

/-- Why a run fails. -/
inductive RunFault
  /-- A file cannot be read or written. -/
  | file (path : Path) (fault : FileFault)
  /-- The metadata makes no sense. -/
  | metadata (fault : MetadataFault)
  /-- The operations cannot be turned into a library. -/
  | generation (failure : Failure)
  deriving DecidableEq, Repr

/-- The text that reports why a run fails. -/
def RunFault.message : RunFault → String
  | file path fault => path.text ++ ": " ++ fault.message
  | metadata fault => fault.message
  | generation failure => failure.message

/-- Something that a run reports on the side. -/
inductive Note
  /-- An event, which may be filtered out. -/
  | event (event : Event)
  /-- A line for the user. -/
  | line (text : String)
  deriving DecidableEq, Repr

/-- What a run does after reading the metadata. -/
structure Plan where
  /-- What is reported first. -/
  notes : List Note
  /-- The files to write. -/
  files : List (Path × String)
  /-- What is printed last, or why the run fails. -/
  outcome : Except RunFault String

namespace Plan

/-- The plan of a run that fails. -/
def failing (notes : List Note) (fault : RunFault) : Plan :=
  ⟨notes, [], .error fault⟩

/-- The plan of a run that only prints something. -/
def printing (notes : List Note) (text : String) : Plan :=
  ⟨notes, [], .ok text⟩

/-- The line that reports a file which would be written. -/
def wouldWrite (path : Path) (content : String) : String :=
  "would write " ++ path.text ++ " (" ++ toString content.utf8ByteSize ++ " bytes)"

/-- The line that sums up a dry run. -/
def summary (a : Artifacts) (s : Store) : String :=
  toString a.signatureCount ++ " signatures, " ++ toString a.contracts.length ++
    " test contracts, " ++ toString s.files.length ++ " files"

/-- What a dry run reports. -/
def dryRunNotes (a : Artifacts) (layout : OutputLayout) : List Note :=
  let s := Store.writeAll { } (a.files layout)
  (s.files.map fun file => .line (wouldWrite file.path file.content)) ++ [.line (summary a s)]

/-- The plan of a run that lists the overloads of some operations. -/
def ofListing (notes : List Note) (format : ListFormat) (ops : List Operation) : Plan :=
  let traced := traceExpandAll ops
  let notes := notes ++ traced.events.map .event
  match traced.outcome with
  | .ok sigs => printing notes (listing format sigs)
  | .error failure => failing notes (.generation failure)

/-- The plan of a run that generates, or reports what it would write. -/
def ofGeneration (notes : List Note) (o : Options) (ops : List Operation) : Plan :=
  let traced := generate ops
  let notes := notes ++ traced.events.map .event
  match traced.outcome with
  | .ok a =>
    if o.dryRun then printing (notes ++ dryRunNotes a o.layout) a.importHelper
    else ⟨notes, a.files o.layout, .ok a.importHelper⟩
  | .error failure => failing notes (.generation failure)

/-- The plan of a run on some operations. -/
def ofOperations (o : Options) (ops : List Operation) : Plan :=
  let notes := [Note.event (.loaded o.metadata.text ops.length)]
  match o.listing? with
  | some format => ofListing notes format ops
  | none => ofGeneration notes o ops

end Plan

/-- The operations in a metadata file, given its text or why it cannot be read. -/
def operationsOf (path : Path) (text : Except FileFault String) :
    Except RunFault (List Operation) :=
  match text with
  | .error fault => .error (.file path fault)
  | .ok text => (readMetadata text).mapError .metadata

/-- The plan of a run, given the text of the metadata file or why it cannot be read. -/
def Options.plan (o : Options) (text : Except FileFault String) : Plan :=
  match operationsOf o.metadata text with
  | .error fault => .failing [] fault
  | .ok ops => .ofOperations o ops

end FheSolidity
