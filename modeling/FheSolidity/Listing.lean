import FheSolidity.Expansion
import FheSolidity.Json.Value

/-!
# Listings

The overloads of some operations as text, one declaration on each line, or as a JSON document.
-/

namespace FheSolidity

/-- How overloads are listed. -/
inductive ListFormat
  | text
  | json
  deriving DecidableEq, Repr

/-- The members of a signature in JSON. -/
def Signature.members (sig : Signature) : List (String × Json.Value) :=
  [("name", .text sig.name),
    ("inputs", .array (sig.inputs.map fun t => .text t.name)),
    ("return_type", .text sig.result.name)]

/-- A signature in JSON. -/
def Signature.toJson (sig : Signature) : Json.Value :=
  .object sig.members

/-- A signature in a JSON listing, between its declaration and what its first input is. -/
def Signature.listed (sig : Signature) : Json.Value :=
  .object (("declaration", .text sig.declaration) :: sig.members ++
    [("input_plaintext", .text sig.leading.word)])

/-- A listing of some signatures. -/
def listing (format : ListFormat) (sigs : List Signature) : String :=
  match format with
  | .text => String.join (sigs.map fun sig => sig.declaration ++ "\n")
  | .json => (Json.Value.array (sigs.map Signature.listed)).pretty ++ "\n"

/-- A listing of the overloads of some operations. -/
def listOperations (format : ListFormat) (ops : List Operation) : Except Failure String := do
  let sigs ← expandAll ops
  return listing format sigs

end FheSolidity
