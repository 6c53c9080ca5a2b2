import FheSolidity.Text.Uppercase

/-!
# Value types

The types that a generated signature may mention. Each is a width together with whether the value
is encrypted, so an encrypted type and its plaintext counterpart share their width, and widths are
compared by rank across the two classes.
-/

namespace FheSolidity

/-- How wide a value is, from a truth value over the unsigned integers to a byte string. -/
inductive Width
  | bool
  | uint8
  | uint16
  | uint32
  | uint64
  | uint128
  | uint256
  | bytes
  deriving DecidableEq, Repr

namespace Width

/-- Every width, from the narrowest to the widest. -/
def all : List Width :=
  [bool, uint8, uint16, uint32, uint64, uint128, uint256, bytes]

/-- The spelling of the plaintext type of this width. -/
def name : Width → String
  | bool => "bool"
  | uint8 => "uint8"
  | uint16 => "uint16"
  | uint32 => "uint32"
  | uint64 => "uint64"
  | uint128 => "uint128"
  | uint256 => "uint256"
  | bytes => "bytes"

/-- The place of a width in the order of widths. It is also the number that denotes the width at
run time. -/
def rank : Width → Nat
  | bool => 0
  | uint8 => 1
  | uint16 => 2
  | uint32 => 3
  | uint64 => 4
  | uint128 => 5
  | uint256 => 6
  | bytes => 7

/-- The wider of two widths. -/
def max (v w : Width) : Width :=
  if v.rank < w.rank then w else v

end Width

/-- A type that can stand in a generated signature. -/
structure ValueType where
  /-- Whether values of the type are ciphertext handles. -/
  encrypted : Bool
  /-- The width of its values, or of what they encrypt. -/
  width : Width
  deriving DecidableEq, Repr

namespace ValueType

/-- The encrypted truth value. -/
def ebool : ValueType := ⟨true, .bool⟩

/-- The encrypted byte string. -/
def ebytes : ValueType := ⟨true, .bytes⟩

/-- The plaintext truth value. -/
def bool : ValueType := ⟨false, .bool⟩

/-- The widest plaintext integer, in which raw values are passed around. -/
def uint256 : ValueType := ⟨false, .uint256⟩

/-- The plaintext byte string. -/
def bytes : ValueType := ⟨false, .bytes⟩

/-- The encrypted types in ascending rank. -/
def encryptedTypes : List ValueType :=
  Width.all.map fun width => ⟨true, width⟩

/-- The plaintext types in ascending rank. -/
def plaintextTypes : List ValueType :=
  Width.all.map fun width => ⟨false, width⟩

/-- The spelling of a type. An encrypted type is spelled as its plaintext counterpart after an
`e`. -/
def name (t : ValueType) : String :=
  (if t.encrypted then "e" else "") ++ t.width.name

/-- The type that a word spells, if it spells one. -/
def ofName? (word : String) : Option ValueType :=
  (encryptedTypes ++ plaintextTypes).find? fun t => t.name == word

/-- The rank of a type is that of its width. -/
def rank (t : ValueType) : Nat :=
  t.width.rank

/-- The encrypted type of the same width. -/
def toEncrypted (t : ValueType) : ValueType :=
  ⟨true, t.width⟩

/-- The plaintext type of the same width. -/
def toPlaintext (t : ValueType) : ValueType :=
  ⟨false, t.width⟩

/-- Whether a type holds byte strings, encrypted or not. -/
def isByteLike (t : ValueType) : Bool :=
  t.width == .bytes

/-- Whether a type takes part only in comparisons and in bitwise and logical operations, as the
encrypted truth value and the encrypted byte string do. -/
def isComparisonOnly (t : ValueType) : Bool :=
  t == ebool || t == ebytes

/-- The data location that a parameter or result of the type must name. -/
def dataLocation? (t : ValueType) : Option String :=
  if t = bytes then some "memory" else none

/-- The spelling of a type in a parameter list: its name, and its data location if it needs one. -/
def declared (t : ValueType) : String :=
  match t.dataLocation? with
  | some location => t.name ++ " " ++ location
  | none => t.name

/-- The spelling of a type inside a longer name such as `asEuint8`. -/
def capitalized (t : ValueType) : String :=
  Text.capitalize t.name

end ValueType

/-- The complaint about a word that spells no type. -/
def unknownTypeMessage (word : String) : String :=
  "unknown type `" ++ word ++ "`"

end FheSolidity
