import FheSolidity.Operation
import FheSolidity.Text.Quoted

/-!
# Events

What is worth recording while operations are expanded, tests are written and files are stored. An
event has a level, a message and some fields, and is logged as one line.
-/

namespace FheSolidity

/-- How much an event matters, from the gravest level to the most verbose. -/
inductive Level
  | error
  | warn
  | info
  | debug
  | trace
  deriving DecidableEq, Repr

namespace Level

/-- The name of a level at the front of a log line. -/
def label : Level → String
  | error => "ERROR"
  | warn => "WARN"
  | info => "INFO"
  | debug => "DEBUG"
  | trace => "TRACE"

/-- The place of a level among the levels. -/
def rank : Level → Nat
  | error => 1
  | warn => 2
  | info => 3
  | debug => 4
  | trace => 5

end Level

/-- A value that an event carries. -/
inductive Field
  /-- A number. -/
  | count (n : Nat)
  /-- A text that is logged as it is. -/
  | bare (text : String)
  /-- A text that is logged between quotes. -/
  | quoted (text : String)
  deriving DecidableEq, Repr

/-- A value as it stands in a log line. -/
def Field.shown : Field → String
  | count n => toString n
  | bare text => text
  | quoted text => Text.quoted text

/-- Something that happened. -/
inductive Event
  /-- No type is a candidate for this parameter, so the operation has no overloads. -/
  | noCandidates (operation : String) (parameter : Nat)
  /-- The operation was expanded into this many overloads. -/
  | expanded (operation : String) (count : Nat)
  /-- There is no test contract for operations with such parameters. -/
  | untested (operation : String) (params : List Parameter)
  /-- A metadata file with this many operations was read. -/
  | loaded (path : String) (operations : Nat)
  /-- A file of this many bytes was written. -/
  | wrote (path : String) (bytes : Nat)
  deriving DecidableEq, Repr

namespace Event

/-- How much an event matters. -/
def level : Event → Level
  | noCandidates .. => .warn
  | expanded .. => .debug
  | untested .. => .warn
  | loaded .. => .info
  | wrote .. => .info

/-- What an event says. -/
def message : Event → String
  | noCandidates .. => "parameter has no candidate types, operation yields no signatures"
  | expanded .. => "expanded"
  | untested .. => "test contract not implemented for this shape"
  | loaded .. => "loaded metadata"
  | wrote .. => "wrote artifact"

/-- The named values that an event carries. -/
def fields : Event → List (String × Field)
  | noCandidates operation parameter =>
    [("operation", .bare operation), ("parameter", .count parameter)]
  | expanded operation count => [("operation", .bare operation), ("count", .count count)]
  | untested operation params =>
    [("function", .quoted operation), ("inputs", .count params.length),
      ("params", .bare ("[" ++ ", ".intercalate (params.map Parameter.shown) ++ "]"))]
  | loaded path operations => [("metadata", .bare path), ("operations", .count operations)]
  | wrote path bytes => [("path", .bare path), ("bytes", .count bytes)]

/-- An event as a log line: its level, its message, and its fields as `name=value`. -/
def line (event : Event) : String :=
  " ".intercalate (event.level.label :: event.message ::
    event.fields.map fun (name, value) => name ++ "=" ++ value.shown)

end Event

end FheSolidity
