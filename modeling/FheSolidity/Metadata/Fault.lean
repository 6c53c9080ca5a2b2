import FheSolidity.Json.Fault
import FheSolidity.ValueType

/-!
# Faults of metadata

Why a metadata document describes no operations: it cannot be read, or one of its entries makes no
sense.
-/

namespace FheSolidity

/-- The causes for which metadata is refused. -/
inductive MetadataFault
  /-- The document cannot be read. -/
  | unreadable (fault : Json.Fault)
  /-- An entry names a type that does not exist. -/
  | unknownType (operation word : String)
  /-- An entry declares another number of parameters than it lists. -/
  | arityMismatch (operation : String) (declared actual : Nat)
  deriving DecidableEq, Repr

/-- The text that reports a fault. -/
def MetadataFault.message : MetadataFault → String
  | unreadable fault => "malformed metadata: " ++ fault.message
  | unknownType operation word => "operation `" ++ operation ++ "`: " ++ unknownTypeMessage word
  | arityMismatch operation declared actual =>
    "operation `" ++ operation ++ "`: declared arity " ++ toString declared ++ " but " ++
      toString actual ++ " inputs"

end FheSolidity
