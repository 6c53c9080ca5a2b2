import FheSolidity.Solidity.Binding
import FheSolidity.Solidity.Cast
import FheSolidity.Solidity.Function
import FheSolidity.Solidity.Preamble

/-!
# The library

The library source in one piece: the preamble, one function for each signature, the conversion
functions and the end of the library `FHE`, the operator overloading, and the methods of every
encrypted type. Every piece starts on a new line, which also ends the title of its section.
-/

namespace FheSolidity

/-- The title before the conversion functions. -/
def castTitle : String := "\n\n\t// ********** TYPE CASTING ************* //"

/-- The title before the operator overloading. -/
def overloadingTitle : String := "\n\n// ********** OPERATOR OVERLOADING ************* //\n"

/-- The title before the methods. -/
def bindingTitle : String := "\n// ********** BINDING DEFS ************* //"

/-- The text of the library with a function for each signature. The first signature that no
function can be written for decides the failure. -/
def libraryText (sigs : List Signature) : Except Failure String := do
  let functions ← sigs.mapM Signature.functionText
  let symbols ← symbolsOn ValueType.encryptedTypes
  return String.join
    (Preamble.code.render :: functions ++ castTitle :: castFunctions ++
      Code.libraryEnd.render :: overloadingTitle :: symbols ++
      bindingTitle :: ValueType.encryptedTypes.map fun t => (Binding.libraryCode t sigs).render)

end FheSolidity
