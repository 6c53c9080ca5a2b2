import FheSolidity.Operation
import FheSolidity.Operator
import FheSolidity.TestContract
import FheSolidity.TestContract.Arm

/-!
# Test contracts of operations

The shape of an operation decides how it is tested. `req` and `reencrypt` are tested in ways of
their own; an operation on two encrypted operands is tested by its truth value or by its decrypted
result; so is one on a single encrypted operand; and three operands are taken to be a choice between
the last two. No other shape is tested.
-/

namespace FheSolidity

/-- How an operation is tested. -/
inductive TestTemplate
  /-- By whether it reverts. -/
  | req
  /-- By its ciphertext for a public key. -/
  | reencrypt
  /-- By its truth value on two operands. -/
  | comparison
  /-- By its result on two operands, also through its symbol if it has one. -/
  | binary (symbol : Option String)
  /-- By its result on one operand. -/
  | unary
  /-- By its choice between two operands. -/
  | ternary
  deriving DecidableEq, Repr

/-- How an operation is tested, if it is. -/
def Operation.testTemplate? (op : Operation) : Option TestTemplate :=
  if op.name = "req" then some .req
  else if op.name = "reencrypt" then some .reencrypt
  else
    match op.arity with
    | 1 => if op.allEncrypted && op.result == .promoted then some .unary else none
    | 2 =>
      if op.allEncrypted then
        if op.result = .exactly .ebool then some .comparison
        else some (.binary (Shorthand.symbolOf? op.name))
      else none
    | 3 => some .ternary
    | _ => none

namespace TestContract

/-! ## The types under test -/

/-- Whether values of a type are tested. Byte strings are not, and truth values only where the
operation makes sense on them. -/
def exercises (booleanMath : Bool) (t : ValueType) : Bool :=
  !t.isByteLike && (booleanMath || !t.isComparisonOnly)

/-- The encrypted types that are tested. -/
def testedTypes (booleanMath : Bool) : List ValueType :=
  ValueType.encryptedTypes.filter (exercises booleanMath)

/-! ## Expressions -/

/-- A parameter of a test, encrypted. -/
def encrypt (t : ValueType) (parameter : String) : String :=
  "FHE.as" ++ t.capitalized ++ "(" ++ parameter ++ ")"

/-- The decrypted value of an expression. -/
def decrypt (expr : String) : String :=
  "FHE.decrypt(" ++ expr ++ ")"

/-- The decrypted value of an expression of a type, as a number. -/
def decryptNumber (t : ValueType) (expr : String) : String :=
  if t = .ebool then "Utils.boolToUint(" ++ decrypt expr ++ ")" else decrypt expr

/-- The statement that returns an expression. -/
def returning (expr : String) : String :=
  "return " ++ expr ++ ";"

/-- A call of the library. -/
def callFunction (operation : String) (arguments : List String) : String :=
  "FHE." ++ operation ++ "(" ++ ", ".intercalate arguments ++ ")"

/-- A call of a method. -/
def callMethod (operation receiver argument : String) : String :=
  receiver ++ "." ++ operation ++ "(" ++ argument ++ ")"

/-! ## The arms of each template -/

/-- The label of the test of a function on one operand. -/
def unaryLabel (operation : String) (t : ValueType) : String :=
  operation ++ "(" ++ t.name ++ ")"

/-- The label of the test of a function on two operands. -/
def functionLabel (operation : String) (t : ValueType) : String :=
  operation ++ "(" ++ t.name ++ "," ++ t.name ++ ")"

/-- The label of the test of a method. -/
def methodLabel (operation : String) (t : ValueType) : String :=
  t.name ++ "." ++ operation ++ "(" ++ t.name ++ ")"

/-- The label of the test of a symbol. -/
def symbolLabel (symbol : String) (t : ValueType) : String :=
  t.name ++ " " ++ symbol ++ " " ++ t.name

/-- The label of the test of a choice. -/
def ternaryLabel (operation : String) (t : ValueType) : String :=
  operation ++ ": " ++ t.name

/-- The arm that tests an operation on a type through its symbol, if it has one that the type
takes. -/
def symbolArm (operation : String) (symbol : Option String) (t : ValueType) : List Arm :=
  match symbol with
  | some symbol =>
    if t.takesSymbol operation then
      [⟨symbolLabel symbol t,
        returning (decryptNumber t (encrypt t "a" ++ " " ++ symbol ++ " " ++ encrypt t "b"))⟩]
    else []
  | none => []

/-- The arms that test an operation on two operands by its result. -/
def binaryArms (operation : String) (symbol : Option String) (t : ValueType) : List Arm :=
  [⟨functionLabel operation t,
      returning (decryptNumber t (callFunction operation [encrypt t "a", encrypt t "b"]))⟩,
    ⟨methodLabel operation t,
      returning (decryptNumber t (callMethod operation (encrypt t "a") (encrypt t "b")))⟩] ++
  symbolArm operation symbol t

/-- The arms that test an operation on two operands by its truth value. -/
def comparisonArms (operation : String) (t : ValueType) : List Arm :=
  [⟨functionLabel operation t,
      returning (decrypt (callFunction operation [encrypt t "a", encrypt t "b"]))⟩,
    ⟨methodLabel operation t,
      returning (decrypt (callMethod operation (encrypt t "a") (encrypt t "b")))⟩]

/-- The arm that tests an operation on one operand. -/
def unaryArm (operation : String) (t : ValueType) : Arm :=
  ⟨unaryLabel operation t,
    returning (decryptNumber t (callFunction operation [encrypt t "a"]))⟩

/-- The arm that tests an operation on a truth value and two operands. -/
def ternaryArm (operation : String) (t : ValueType) : Arm :=
  ⟨ternaryLabel operation t,
    returning (decryptNumber t
      (callFunction operation [encrypt .ebool "control", encrypt t "a", encrypt t "b"]))⟩

/-- The arm that tests `req`. -/
def reqArm (t : ValueType) : Arm :=
  ⟨unaryLabel "req" t, callFunction "req" [encrypt t "a"] ++ ";"⟩

/-- The arm that tests `reencrypt`. -/
def reencryptArm (t : ValueType) : Arm :=
  ⟨unaryLabel "reencrypt" t,
    returning (callFunction "reencrypt" [encrypt t "a", "abi.encodePacked(pubkey)"])⟩

/-! ## The contracts -/

/-- The parameter that holds the label of a test. -/
def testParameter : TestParameter := ⟨"test", "string calldata", "string"⟩

/-- A parameter that holds a number to be encrypted. -/
def numberParameter (name : String) : TestParameter := ⟨name, "uint256", "bigint"⟩

/-- The parameter that holds a truth value to choose by. -/
def controlParameter : TestParameter := ⟨"control", "bool", "boolean"⟩

/-- The parameter that holds a public key. -/
def keyParameter : TestParameter := ⟨"pubkey", "bytes32", "Uint8Array"⟩

/-- The contract with a single function, which is named for an operation and chooses among some
arms by its first parameter. -/
def dispatching (operation : String) (parameters : List TestParameter) (returns : Option String)
    (promises : String) (arms : List Arm) : TestContract :=
  ⟨Text.capitalize operation,
    [⟨operation, testParameter :: parameters, returns, promises, Arm.choose arms⟩]⟩

/-- The contract that tests an operation on two operands by its result. -/
def binary (operation : String) (booleanMath : Bool) (symbol : Option String) : TestContract :=
  dispatching operation [numberParameter "a", numberParameter "b"] (some "uint256 output") "bigint"
    ((testedTypes booleanMath).flatMap (binaryArms operation symbol))

/-- The contract that tests an operation on two operands by its truth value. -/
def comparison (operation : String) (booleanMath : Bool) : TestContract :=
  dispatching operation [numberParameter "a", numberParameter "b"] (some "bool output") "boolean"
    ((testedTypes booleanMath).flatMap (comparisonArms operation))

/-- The contract that tests an operation on one operand. -/
def unary (operation : String) : TestContract :=
  dispatching operation [numberParameter "a"] (some "uint256 output") "bigint"
    ((testedTypes false).map (unaryArm operation))

/-- The contract that tests an operation on a truth value and two operands. -/
def ternary (operation : String) : TestContract :=
  dispatching operation [controlParameter, numberParameter "a", numberParameter "b"]
    (some "uint256 output") "bigint" ((testedTypes false).map (ternaryArm operation))

/-- The contract that tests `req`. -/
def req : TestContract :=
  dispatching "req" [numberParameter "a"] none "void" ((testedTypes true).map reqArm)

/-- The contract that tests `reencrypt`. -/
def reencrypt : TestContract :=
  dispatching "reencrypt" [numberParameter "a", keyParameter] (some "bytes memory reencrypted")
    "string" ((testedTypes false).map reencryptArm)

end TestContract

/-- The contract that tests an operation in a given way. -/
def TestTemplate.contract (op : Operation) : TestTemplate → TestContract
  | req => .req
  | reencrypt => .reencrypt
  | comparison => .comparison op.name op.booleanMath
  | binary symbol => .binary op.name op.booleanMath symbol
  | unary => .unary op.name
  | ternary => .ternary op.name

/-- The contract that tests an operation, if there is one for its shape. -/
def Operation.testContract? (op : Operation) : Option TestContract :=
  op.testTemplate?.map (TestTemplate.contract op)

end FheSolidity
