import FheSolidity.Generation
import FheSolidity.Output.Path

/-!
# Where the artifacts go

A layout gives the paths of the library and of the interface module, and the directory of the test
contracts, each of which is a file named for its key.
-/

namespace FheSolidity

/-- The paths of all that generation makes. -/
structure OutputLayout where
  /-- The file of the library. -/
  library : Path := ⟨"FHE.sol"⟩
  /-- The directory of the test contracts. -/
  contractsDirectory : Path := ⟨"solidity/tests/contracts"⟩
  /-- The file of the interface module. -/
  abi : Path := ⟨"solidity/tests/abis.ts"⟩
  deriving DecidableEq, Repr

/-- The file of the test contract with a key. -/
def OutputLayout.contractPath (layout : OutputLayout) (key : String) : Path :=
  layout.contractsDirectory.join (key ++ ".sol")

/-- The files that hold what was generated, in the order in which they are written: the library, the
test contracts, and the interface module. -/
def Artifacts.files (a : Artifacts) (layout : OutputLayout) : List (Path × String) :=
  (layout.library, a.library) ::
    (a.contracts.map fun c => (layout.contractPath c.key, c.source)) ++ [(layout.abi, a.abi)]

end FheSolidity
