/-!
# Faults of JSON documents

A document is read from left to right, and the first thing wrong with it decides its fault.
-/

namespace FheSolidity.Json

/-- What is wrong with a document at the first place where it cannot be read. -/
inductive Fault
  /-- The text there does not belong to JSON. -/
  | malformed
  /-- The text ends before the document does. -/
  | truncated
  /-- The text is JSON so far, but not of the shape that is asked for. -/
  | mistyped
  deriving DecidableEq, Repr

/-- The words that report a fault. -/
def Fault.message : Fault → String
  | malformed => "invalid JSON"
  | truncated => "unexpected end of input"
  | mistyped => "unexpected value"

end FheSolidity.Json
