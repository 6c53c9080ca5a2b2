import FheSolidity.Solidity.Code
import FheSolidity.ValueType

/-!
# Test contracts

A test contract exercises part of the library on a chain. It has a key, from which the contract and
the interface of its script-side type are named, and some functions, each of which is written both
as Solidity source and as a member of that interface.
-/

namespace FheSolidity

/-- A parameter of a test function. -/
structure TestParameter where
  /-- The parameter's name. -/
  name : String
  /-- Its type in the contract. -/
  solidity : String
  /-- Its type in the interface. -/
  script : String
  deriving DecidableEq, Repr

/-- A function of a test contract. -/
structure TestFunction where
  /-- The function's name. -/
  name : String
  /-- Its parameters. -/
  parameters : List TestParameter
  /-- What it returns in the contract, if it returns anything. -/
  returns : Option String
  /-- What it promises in the interface. -/
  promises : String
  /-- Its body. -/
  body : Code

/-- A test contract. -/
structure TestContract where
  /-- The key, from which the contract and its interface are named. -/
  key : String
  /-- The functions. -/
  functions : List TestFunction

open Code

namespace TestFunction

/-- The head of a function in the contract. -/
def header (f : TestFunction) : String :=
  "function " ++ f.name ++ "(" ++
    ", ".intercalate (f.parameters.map fun p => p.solidity ++ " " ++ p.name) ++ ") public pure" ++
    match f.returns with
    | some result => " returns (" ++ result ++ ")"
    | none => ""

/-- A function in the contract. -/
def code (f : TestFunction) : Code :=
  block f.header f.body

/-- A function in the interface. -/
def member (f : TestFunction) : Code :=
  line (f.name ++ ": (" ++
    ", ".intercalate (f.parameters.map fun p => p.name ++ ": " ++ p.script) ++ ") => Promise<" ++
    f.promises ++ ">;")

end TestFunction

namespace TestContract

/-- What stands before every contract: the licence, the compiler versions, the imports, and the
error for a test that does not exist. -/
def preamble : Code :=
  line "// SPDX-License-Identifier: MIT" ++
  line "pragma solidity >=0.8.19 <0.9.0;" ++ blank ++
  line "import \x7bFHE\x7d from \"../../../contracts/FHE.sol\";" ++
  line ("import \x7b" ++ ", ".intercalate (ValueType.encryptedTypes.map ValueType.name) ++
    "\x7d from \"../../../contracts/FHE.sol\";") ++
  line "import \x7bUtils\x7d from \"./utils/Utils.sol\";" ++ blank ++
  line "error TestNotFound(string test);" ++ blank

/-- The source of a contract. -/
def source (c : TestContract) : String :=
  render (preamble ++
    block ("contract " ++ c.key ++ "Test")
      (line "using Utils for *;" ++ c.functions.flatMap fun f => blank ++ f.code))

/-- The name of the type of a contract in the interface module. -/
def typeName (c : TestContract) : String :=
  c.key ++ "TestType"

/-- The interface of a contract, with the empty line after it. -/
def abi (c : TestContract) : String :=
  render (block ("export interface " ++ c.typeName ++ " extends BaseContract")
    (c.functions.flatMap TestFunction.member) ++ blank)

end TestContract

end FheSolidity
