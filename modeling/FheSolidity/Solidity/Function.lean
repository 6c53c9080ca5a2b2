import FheSolidity.Failure
import FheSolidity.Signature
import FheSolidity.Solidity.Code
import FheSolidity.Solidity.Value

/-!
# Library functions

The source of the library function with a given signature. A body has four parts, in this order: a
guard for each encrypted input that may be uninitialized, the raw value of each input, one call of
the runtime on the raw values, and the return of its result. The call goes through a helper that
depends on the number of inputs, and exists for one to three of them.
-/

namespace FheSolidity

/-- The helper through which the runtime is called. -/
inductive CallHelper
  | unary
  | math
  | ternary
  deriving DecidableEq, Repr

namespace CallHelper

/-- The helper for a number of arguments. -/
def ofArity? : Nat → Option CallHelper
  | 1 => some unary
  | 2 => some math
  | 3 => some ternary
  | _ => none

/-- The name of the helper function. -/
def function : CallHelper → String
  | unary => "Impl.unaryOp"
  | math => "Impl.mathOp"
  | ternary => "Impl.ternaryOp"

end CallHelper

namespace Signature

open Code

/-- The helper that calls the runtime for a function. -/
def helper (sig : Signature) : Except Failure CallHelper :=
  match CallHelper.ofArity? sig.arity with
  | some helper => .ok helper
  | none => .error (.unsupportedArity sig.name sig.arity)

/-- The variable that holds the raw value of the input at a position. -/
def unwrappedName (i : Nat) : String :=
  "unwrappedInput" ++ toString i

/-- The guard that replaces an uninitialized input by an encryption of zero. -/
def guard (t : ValueType) (i : Nat) : Code :=
  block ("if (!isInitialized(" ++ inputName i ++ "))")
    (line (inputName i ++ " = " ++ t.castName ++ "(0);"))

/-- The guards of a function: one for each encrypted input if the inputs are taken to be encrypted,
and none otherwise. -/
def guards (sig : Signature) : Leading → Code
  | .encrypted => sig.inputs.zipIdx.flatMap fun (t, i) => if t.encrypted then guard t i else []
  | .plaintext => []

/-- The definition of the raw value of an input. -/
def unwrapping (t : ValueType) (i : Nat) : Code :=
  line ("uint256 " ++ unwrappedName i ++ " = " ++ t.unwrapped (inputName i) ++ ";")

/-- The type whose width the runtime is told: that of the result if it is encrypted, and otherwise
that of the first input. -/
def runtimeType (sig : Signature) : ValueType :=
  if sig.result.encrypted then sig.result else sig.inputs.head?.getD sig.result

/-- The arguments of the call: the width, the raw inputs, and the function of the runtime. -/
def callArguments (sig : Signature) : List String :=
  sig.runtimeType.constant :: (List.range sig.arity).map unwrappedName ++
    ["FheOps(Precompiles.Fheos)." ++ sig.name]

/-- The call of the runtime through a helper. -/
def call (sig : Signature) (helper : CallHelper) : Code :=
  line ("uint256 result = " ++ helper.function ++ "(" ++
    ", ".intercalate sig.callArguments ++ ");")

/-- The body of a function. -/
def body (sig : Signature) (leading : Leading) (helper : CallHelper) : Code :=
  sig.guards leading ++ (sig.inputs.zipIdx.flatMap fun (t, i) => unwrapping t i) ++ blank ++
    sig.call helper ++ line ("return " ++ sig.result.wrapped "result" ++ ";")

/-- What the comment before a function says about its inputs. -/
def inputsNote : Leading → String
  | .encrypted => "Uninitialized encrypted inputs are treated as an encryption of zero"
  | .plaintext => "Plaintext inputs are passed to the runtime as-is"

/-- The comment before a function. -/
def comment (sig : Signature) (leading : Leading) : Code :=
  line ("/// @notice This function performs the " ++ sig.name ++ " operation over " ++
    ", ".intercalate (sig.inputs.map ValueType.name)) ++
  line ("/// @dev " ++ inputsNote leading)

/-- A function with its comment, as it stands in the library, for inputs that are taken to be
encrypted or not. -/
def functionCode (sig : Signature) (leading : Leading) (helper : CallHelper) : Code :=
  blank ++ indent (sig.comment leading ++ block sig.header (sig.body leading helper))

/-- The text of the library function with a signature. -/
def functionText (sig : Signature) : Except Failure String := do
  let helper ← sig.helper
  return (sig.functionCode sig.leading helper).render

end Signature

end FheSolidity
