import FheSolidity.Metadata.Fault
import FheSolidity.Operation

/-!
# Entries of metadata

An entry is an operation as a document spells it, with words for its parameters and its result.
`Entry.resolve` looks the words up. The number of parameters is checked first, then the words for
the parameters from left to right, then the word for the result.
-/

namespace FheSolidity

/-- An operation in the words of a metadata document. -/
structure Entry where
  /-- The name of the operation. -/
  name : String
  /-- A word for each parameter. -/
  inputs : List String
  /-- The word for the result, if there is one. -/
  returns : Option String
  /-- Whether the operation also makes sense on truth values and byte strings. -/
  booleanMath : Bool
  /-- Whether the inputs should be of one type. -/
  sameType : Bool
  /-- How many parameters the entry claims to have, if it says so. -/
  arity : Option Nat
  deriving DecidableEq, Repr

namespace Entry

/-- Checks the number of parameters that an entry claims to have. -/
def checkArity (entry : Entry) : Except MetadataFault Unit :=
  match entry.arity with
  | none => .ok ()
  | some declared =>
    if declared = entry.inputs.length then .ok ()
    else .error (.arityMismatch entry.name declared entry.inputs.length)

/-- The parameter that a word of an entry stands for. -/
def resolveInput (entry : Entry) (word : String) : Except MetadataFault Parameter :=
  match Parameter.ofWord? word with
  | some param => .ok param
  | none => .error (.unknownType entry.name word)

/-- The result rule that an entry asks for. -/
def resolveReturns (entry : Entry) : Except MetadataFault ResultRule :=
  match ResultRule.ofWord? entry.returns with
  | some rule => .ok rule
  | none => .error (.unknownType entry.name (entry.returns.getD ""))

/-- The operation that an entry describes. -/
def resolve (entry : Entry) : Except MetadataFault Operation := do
  entry.checkArity
  let params ← entry.inputs.mapM entry.resolveInput
  let result ← entry.resolveReturns
  return ⟨entry.name, params, result, entry.booleanMath, entry.sameType⟩

end Entry

end FheSolidity
