import FheSolidity.Signature
import FheSolidity.Solidity.Code
import FheSolidity.Solidity.Value

/-!
# The preamble of the library

All that comes before the generated functions: the encrypted types, two libraries of helpers, and
the opening of the library `FHE`, which holds the generated functions and is still open at the end.
-/

namespace FheSolidity.Preamble

open Code

/-- A helper function, with its parameters and its result. -/
def helper (name parameters result : String) (body : Code) : Code :=
  blank ++ block ("function " ++ name ++ "(" ++ parameters ++ ") " ++ visibility ++
    " returns (" ++ result ++ ")") body

/-- The licence, the compiler versions and the imports. -/
def imports : Code :=
  line "// SPDX-License-Identifier: BSD-3-Clause-Clear" ++
  line "// solhint-disable one-contract-per-file" ++ blank ++
  line "pragma solidity >=0.8.19 <0.9.0;" ++ blank ++
  line "import \x7bPrecompiles, FheOps\x7d from \"./FheOS.sol\";" ++ blank

/-- The definition of an encrypted type. -/
def typeDefinition (t : ValueType) : Code :=
  line ("type " ++ t.name ++ " is uint256;")

/-- The constant that stands for a type at run time. -/
def typeConstant (t : ValueType) : Code :=
  line ("uint8 internal constant " ++ t.constantName ++ " = " ++ toString t.rank ++ ";")

/-- The conversions between raw values and plaintext values. -/
def conversions : Code :=
  helper "bigIntToBool" "uint256 i" "bool" (line "return (i > 0);") ++
  helper "boolToUint" "bool b" "uint256" (line "return b ? 1 : 0;") ++
  helper "bytesToUint" "bytes memory b" "uint256 result"
    (block "for (uint256 i = 0; i < b.length && i < 32; i++)"
      (line "result = (result << 8) | uint8(b[i]);")) ++
  helper "uintToBytes" "uint256 value" "bytes memory" (line "return abi.encodePacked(value);")

/-- The library of runtime constants and conversions. -/
def common : Code :=
  block "library Common"
    (line "// Values used to communicate types to the runtime." ++
      ValueType.encryptedTypes.flatMap typeConstant ++ conversions)

/-- A helper that calls a function of the runtime, given as its last parameter. -/
def callHelper (name : String) (parameters : List String) (implementation : String) (body : Code) :
    Code :=
  line ("function " ++ name ++ "(") ++
    indent (line "uint8 utype," ++ parameters.flatMap (fun p => line ("uint256 " ++ p ++ ",")) ++
      line ("function(" ++ implementation ++ ") external pure returns (bytes memory) impl")) ++
    opening (") " ++ visibility ++ " returns (uint256)") ++ indent body ++ closing

/-- The helpers that call the runtime on one, two and three operands. -/
def callHelpers : Code :=
  callHelper "unaryOp" ["value"] "uint8, bytes memory"
    (line "return Common.bytesToUint(impl(utype, Common.uintToBytes(value)));") ++ blank ++
  callHelper "mathOp" ["lhs", "rhs"] "uint8, bytes memory, bytes memory"
    (line ("return Common.bytesToUint(impl(utype, Common.uintToBytes(lhs), " ++
      "Common.uintToBytes(rhs)));")) ++ blank ++
  callHelper "ternaryOp" ["control", "ifTrue", "ifFalse"]
    "uint8, bytes memory, bytes memory, bytes memory"
    (line "return Common.bytesToUint(" ++
      indent (line ("impl(utype, Common.uintToBytes(control), Common.uintToBytes(ifTrue), " ++
        "Common.uintToBytes(ifFalse))")) ++
      line ");")

/-- The helpers that cast, encrypt and verify. -/
def castHelpers : Code :=
  helper "cast" "uint8 fromType, uint256 value, uint8 toType" "uint256"
    (line ("return Common.bytesToUint(FheOps(Precompiles.Fheos).cast(fromType, " ++
      "Common.uintToBytes(value), toType));")) ++
  helper "trivialEncrypt" "uint256 value, uint8 toType" "uint256"
    (line ("return Common.bytesToUint(FheOps(Precompiles.Fheos).trivialEncrypt(" ++
      "Common.uintToBytes(value), toType));")) ++
  helper "verify" "bytes memory ciphertext, uint8 toType" "uint256"
    (line ("return Common.bytesToUint(FheOps(Precompiles.Fheos).verify(toType, ciphertext));"))

/-- The library of calls of the runtime. -/
def implementation : Code :=
  block "library Impl" (callHelpers ++ castHelpers)

/-- The constant of a type that no initialized value is equal to. -/
def nilConstant (t : ValueType) : Code :=
  line (t.name ++ " internal constant NIL_" ++ Text.constantCase t.name ++ " = " ++ t.name ++
    ".wrap(0);")

/-- The function that tells whether a value of a type is initialized. -/
def isInitialized (t : ValueType) : Code :=
  helper "isInitialized" (t.name ++ " v") "bool" (line ("return " ++ t.name ++ ".unwrap(v) != 0;"))

/-- The opening of the library `FHE`, with what it holds before the generated functions. -/
def libraryOpening : Code :=
  opening "library FHE" ++
    indent (ValueType.encryptedTypes.flatMap nilConstant ++
      ValueType.encryptedTypes.flatMap isInitialized)

/-- The whole preamble. -/
def code : Code :=
  imports ++ ValueType.encryptedTypes.flatMap typeDefinition ++ blank ++ common ++ blank ++
    implementation ++ blank ++ libraryOpening

end FheSolidity.Preamble
