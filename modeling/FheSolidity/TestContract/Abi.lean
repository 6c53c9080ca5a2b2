import FheSolidity.TestContract
import FheSolidity.Text.Blank

/-!
# The interface module

The script module that holds the interfaces of all test contracts.
-/

namespace FheSolidity

/-- What the interface module starts with. -/
def abiOpening : String :=
  "// This file is generated. Do not edit by hand.\n" ++
    "import \x7b BaseContract \x7d from 'ethers';\n\n"

/-- The interface module around some interfaces. It ends with a single newline, whatever blanks they
end with. -/
def abiModule (interfaces : String) : String :=
  String.ofList (Text.trimEnd (abiOpening ++ interfaces).toList) ++ "\n"

end FheSolidity
