import FheSolidity.ValueType

/-!
# Signatures

One overload of an operation, and its text. A signature is declared as
`function NAME(T0 input0, T1 input1) internal pure returns (R);`, where the parameters are named by
their positions.
-/

namespace FheSolidity

/-- What the first input of a function is, which selects how its body treats the inputs. -/
inductive Leading
  /-- The first input is encrypted. -/
  | encrypted
  /-- The first input is plaintext, or there is none. -/
  | plaintext
  deriving DecidableEq, Repr

namespace Leading

/-- What the first of some inputs is. -/
def ofInputs : List ValueType → Leading
  | t :: _ => if t.encrypted then encrypted else plaintext
  | [] => plaintext

/-- The word for it, which answers how many of the inputs are taken to be plaintext. -/
def word : Leading → String
  | encrypted => "none"
  | plaintext => "all"

end Leading

/-- The visibility and mutability of every library function. -/
def visibility : String := "internal pure"

/-- One overload of an operation, with every type fixed. -/
structure Signature where
  /-- The function's name. -/
  name : String
  /-- The types of its inputs. -/
  inputs : List ValueType
  /-- The type of its result. -/
  result : ValueType
  deriving DecidableEq, Repr

namespace Signature

/-- The number of inputs. -/
def arity (sig : Signature) : Nat :=
  sig.inputs.length

/-- What the first input is. -/
def leading (sig : Signature) : Leading :=
  .ofInputs sig.inputs

/-- Whether there are inputs and all of them have this type. -/
def isHomogeneous (sig : Signature) (t : ValueType) : Bool :=
  !sig.inputs.isEmpty && sig.inputs.all fun input => input == t

/-- The name of the input at a position. -/
def inputName (i : Nat) : String :=
  "input" ++ toString i

/-- The parameters as they stand in a declaration, such as `euint8 input0, bytes memory input1`. -/
def parameterList (sig : Signature) : String :=
  ", ".intercalate (sig.inputs.zipIdx.map fun (t, i) => t.declared ++ " " ++ inputName i)

/-- The head of the function, before a semicolon or a body. -/
def header (sig : Signature) : String :=
  "function " ++ sig.name ++ "(" ++ sig.parameterList ++ ") " ++ visibility ++ " returns (" ++
    sig.result.declared ++ ")"

/-- The declaration of the function. -/
def declaration (sig : Signature) : String :=
  sig.header ++ ";"

end Signature

end FheSolidity
