import FheSolidity.ValueType

/-!
# Failures of generation

Why operations cannot be turned into a library. Each cause is a disagreement between the metadata
and what the generator can express.
-/

namespace FheSolidity

/-- The causes for which generation stops. -/
inductive Failure
  /-- Plaintext is to be extracted from a number of inputs other than one. -/
  | extractionArity (function : String) (count : Nat)
  /-- Plaintext is to be extracted from an input that is plaintext already. -/
  | extractionInput (function : String) (found : ValueType)
  /-- A text is not a declaration of a library function. -/
  | notDeclaration (text : String)
  /-- No function body exists for this number of inputs. -/
  | unsupportedArity (function : String) (arity : Nat)
  /-- A symbol is to be attached to a plaintext type. -/
  | plaintextOperator (operation : String) (found : ValueType)
  /-- Two test contracts have the same key. -/
  | duplicateContract (key : String)
  deriving DecidableEq, Repr

/-- The text that reports a failure. -/
def Failure.message : Failure → String
  | extractionArity function count =>
    "`" ++ function ++ "`: plaintext extraction expects exactly one input, got " ++ toString count
  | extractionInput function found =>
    "`" ++ function ++ "`: plaintext extraction expects an encrypted input, got `" ++
      found.name ++ "`"
  | notDeclaration text => "invalid function declaration format: `" ++ text ++ "`"
  | unsupportedArity function arity =>
    "`" ++ function ++ "`: unsupported number of inputs (" ++ toString arity ++ ")"
  | plaintextOperator operation found =>
    "operator overload for `" ++ operation ++ "`: `" ++ found.name ++ "` is not an encrypted type"
  | duplicateContract key => "duplicate test contract `" ++ key ++ "`"

end FheSolidity
