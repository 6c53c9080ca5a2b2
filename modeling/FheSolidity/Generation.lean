import FheSolidity.Expansion.Traced
import FheSolidity.Solidity.Library
import FheSolidity.TestContract.Abi
import FheSolidity.TestContract.Cast

/-!
# Generation

All that is made from some operations in one go: the library, the test contracts and the interface
module. The operations are taken in their order, and each is given its test contract before it is
expanded. Then the library is written, and last the keys of the test contracts are compared.
-/

namespace FheSolidity

/-- What generation makes. -/
structure Artifacts where
  /-- The library source. -/
  library : String
  /-- The test contracts, in the order of the operations and with the conversions last. -/
  contracts : List TestContract
  /-- The number of library functions that the operations gave rise to. -/
  signatureCount : Nat

namespace Artifacts

/-- The interface module of the test contracts. -/
def abi (a : Artifacts) : String :=
  abiModule (String.join (a.contracts.map TestContract.abi))

/-- The line that imports the interfaces of all test contracts. -/
def importHelper (a : Artifacts) : String :=
  "import \x7b " ++ ",\n".intercalate (a.contracts.map TestContract.typeName) ++
    " \x7d from './abis';\n"

end Artifacts

namespace Operation

/-- The operations without a test contract of their own, since the others exercise them. -/
def untestedNames : List String :=
  ["decrypt"]

/-- The events of writing the test contract of an operation: one if there is none for its shape. -/
def testEvents (op : Operation) : List Event :=
  match op.testContract? with
  | some _ => []
  | none => [.untested op.name op.params]

/-- The test contract of an operation, with a record. -/
def traceTest (op : Operation) : Traced Failure (Option TestContract) :=
  if untestedNames.contains op.name then ⟨[], .ok none⟩
  else ⟨op.testEvents, .ok op.testContract?⟩

/-- What an operation contributes: its test contract and its overloads. -/
def contribution (op : Operation) : Traced Failure (Option TestContract × List Signature) := do
  let test ← op.traceTest
  let signatures ← op.traceExpand
  return (test, signatures)

end Operation

/-- The first key that was seen before. -/
def firstRepeated? (seen : List String) : List String → Option String
  | [] => none
  | key :: keys => if seen.contains key then some key else firstRepeated? (key :: seen) keys

/-- Refuses test contracts of which two have the same key. -/
def checkKeys (contracts : List TestContract) : Except Failure Unit :=
  match firstRepeated? [] (contracts.map TestContract.key) with
  | some key => .error (.duplicateContract key)
  | none => .ok ()

/-- Everything that is made from some operations. -/
def generate (ops : List Operation) : Traced Failure Artifacts := do
  let contributions ← ops.mapM Operation.contribution
  let signatures := contributions.flatMap Prod.snd
  let contracts := contributions.filterMap Prod.fst ++ TestContract.castings
  let library ← .lift (libraryText signatures)
  .lift (checkKeys contracts)
  return ⟨library, contracts, signatures.length⟩

end FheSolidity
