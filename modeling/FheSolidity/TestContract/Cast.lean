import FheSolidity.TestContract.Template

/-!
# Test contracts of conversions

For every encrypted type there is a contract with one function for each source that a value of the
type can be made from: the other encrypted types, short of byte strings, then plaintext numbers and
ciphertexts in bytes.
-/

namespace FheSolidity

namespace TestContract

/-- What a conversion into a type returns once it is decrypted. -/
def castReturns (target : ValueType) : String :=
  if target = .ebytes then "bytes memory" else "uint256"

/-- What the interface promises for a conversion into a type. -/
def castPromises (target : ValueType) : String :=
  if target = .ebytes then "string" else "bigint"

/-- The function that tests a conversion into a type, from a source with a name, a type of the
parameter in the contract and in the interface, and an expression for the source value. -/
def castFunction (target : ValueType) (source solidity script expr : String) : TestFunction :=
  ⟨"castFrom" ++ source ++ "To" ++ target.capitalized, [⟨"val", solidity, script⟩],
    some (castReturns target), castPromises target,
    Code.line (returning (decryptNumber target (encrypt target expr)))⟩

/-- The encrypted types whose conversion into a type is tested. -/
def castSources (target : ValueType) : List ValueType :=
  ValueType.encryptedTypes.filter fun t => t != target && !t.isByteLike

/-- The contract that tests the conversions into a type. -/
def casting (target : ValueType) : TestContract :=
  ⟨"As" ++ target.capitalized,
    ((castSources target).map fun source =>
      castFunction target source.capitalized "uint256" "bigint" (encrypt source "val")) ++
    [castFunction target "Plaintext" "uint256" "bigint" "val",
      castFunction target "PreEncrypted" "bytes memory" "Uint8Array" "val"]⟩

/-- The contracts that test all conversions. -/
def castings : List TestContract :=
  ValueType.encryptedTypes.map casting

end TestContract

end FheSolidity
