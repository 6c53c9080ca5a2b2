import FheSolidity.ValueType

/-!
# Values in generated code

How generated code moves values between their own types and the raw `uint256` that the runtime
works on, and how it names types to the runtime.
-/

namespace FheSolidity.ValueType

/-- The name of the constant that stands for the width of a type at run time. -/
def constantName (t : ValueType) : String :=
  Text.constantCase t.toEncrypted.name ++ "_TFHE"

/-- The constant that stands for the width of a type, as code outside its library refers to it. -/
def constant (t : ValueType) : String :=
  "Common." ++ t.constantName

/-- The name of the conversion function into a type. -/
def castName (t : ValueType) : String :=
  "as" ++ t.capitalized

/-- The expression for the raw value of an expression of a type. -/
def unwrapped (t : ValueType) (expr : String) : String :=
  if t.encrypted then t.name ++ ".unwrap(" ++ expr ++ ")"
  else if t = bool then "Common.boolToUint(" ++ expr ++ ")"
  else if t = bytes then "Common.bytesToUint(" ++ expr ++ ")"
  else "uint256(" ++ expr ++ ")"

/-- The expression of a type for a raw value. -/
def wrapped (t : ValueType) (expr : String) : String :=
  if t.encrypted then t.name ++ ".wrap(" ++ expr ++ ")"
  else if t = bool then "Common.bigIntToBool(" ++ expr ++ ")"
  else if t = bytes then "Common.uintToBytes(" ++ expr ++ ")"
  else t.name ++ "(" ++ expr ++ ")"

end FheSolidity.ValueType
