import FheSolidity.Signature
import FheSolidity.Solidity.Code
import FheSolidity.Solidity.Value

/-!
# Conversion functions

Every encrypted type can be converted into every other one. An encrypted type can also be made from
a `uint256`, which is encrypted, and from `bytes`, which hold a ciphertext to be verified; and the
encrypted truth value can be made from a plaintext one.
-/

namespace FheSolidity

/-- A conversion from one type to another. -/
structure Cast where
  /-- The type of the argument. -/
  source : ValueType
  /-- The type of the result. -/
  target : ValueType
  deriving DecidableEq, Repr

namespace Cast

open Code ValueType

/-- The body of a conversion: a plaintext truth value is first turned into a number; a number is
encrypted, bytes are verified, and a ciphertext is cast. -/
def body (c : Cast) : Code :=
  if c.source = bool then
    line "uint256 sVal = 0;" ++ block "if (value)" (line "sVal = 1;") ++
      line ("return " ++ c.target.castName ++ "(sVal);")
  else
    line ("return " ++ c.target.name ++ ".wrap(" ++
      (if c.source = uint256 then "Impl.trivialEncrypt(value, " ++ c.target.constant ++ ")"
      else if c.source = bytes then "Impl.verify(value, " ++ c.target.constant ++ ")"
      else
        "Impl.cast(" ++ c.source.constant ++ ", " ++ c.source.name ++ ".unwrap(value), " ++
          c.target.constant ++ ")") ++ ");")

/-- The head of a conversion function. -/
def header (c : Cast) : String :=
  "function " ++ c.target.castName ++ "(" ++ c.source.declared ++ " value) " ++ visibility ++
    " returns (" ++ c.target.name ++ ")"

/-- A conversion function with its comment, as it stands in the library. -/
def functionCode (c : Cast) : Code :=
  blank ++ indent
    (line ("/// @notice Converts a " ++ c.source.name ++ " to an " ++ c.target.name) ++
      block c.header c.body)

/-- The conversions from an encrypted type, a `uint256` or `bytes` into another encrypted type. -/
def pairs : List Cast :=
  (encryptedTypes ++ [uint256, bytes]).flatMap fun source =>
    (encryptedTypes.filter fun target => target != source).map fun target => ⟨source, target⟩

/-- Every conversion. -/
def all : List Cast :=
  pairs ++ [⟨bool, ebool⟩]

end Cast

/-- The texts of all conversion functions. -/
def castFunctions : List String :=
  Cast.all.map fun c => c.functionCode.render

end FheSolidity
