import FheSolidity.Solidity.Value

/-!
# How functions spell types

A function refers to the types of its inputs and of its result by texts that are put together from
the names of the types. Here these texts are written out, type by type, and the ones that are put
together are shown to be the same. What is said of a function by the spellings says what its text
is, whichever way the text comes about.
-/

namespace FheSolidity

/-- The texts of a function that depend on the width of a type alone. -/
structure Width.Spelling where
  /-- The function that converts into the encrypted type. -/
  cast : String
  /-- The constant that tells the width to the runtime. -/
  constant : String

/-- How a function spells a width. -/
def Width.spelling : Width → Spelling
  | bool => ⟨"asEbool", "Common.EBOOL_TFHE"⟩
  | uint8 => ⟨"asEuint8", "Common.EUINT8_TFHE"⟩
  | uint16 => ⟨"asEuint16", "Common.EUINT16_TFHE"⟩
  | uint32 => ⟨"asEuint32", "Common.EUINT32_TFHE"⟩
  | uint64 => ⟨"asEuint64", "Common.EUINT64_TFHE"⟩
  | uint128 => ⟨"asEuint128", "Common.EUINT128_TFHE"⟩
  | uint256 => ⟨"asEuint256", "Common.EUINT256_TFHE"⟩
  | bytes => ⟨"asEbytes", "Common.EBYTES_TFHE"⟩

namespace ValueType

/-- The texts of a function that depend on a type. -/
structure Spelling where
  /-- The type of a parameter or of the result, with its data location if it needs one. -/
  declared : String
  /-- The function from a value of the type to the raw value. -/
  unwrap : String
  /-- The function from a raw value to the value of the type. -/
  wrap : String

/-- How a function spells a type. -/
def spelling : ValueType → Spelling
  | ⟨true, .bool⟩ => ⟨"ebool", "ebool.unwrap", "ebool.wrap"⟩
  | ⟨true, .uint8⟩ => ⟨"euint8", "euint8.unwrap", "euint8.wrap"⟩
  | ⟨true, .uint16⟩ => ⟨"euint16", "euint16.unwrap", "euint16.wrap"⟩
  | ⟨true, .uint32⟩ => ⟨"euint32", "euint32.unwrap", "euint32.wrap"⟩
  | ⟨true, .uint64⟩ => ⟨"euint64", "euint64.unwrap", "euint64.wrap"⟩
  | ⟨true, .uint128⟩ => ⟨"euint128", "euint128.unwrap", "euint128.wrap"⟩
  | ⟨true, .uint256⟩ => ⟨"euint256", "euint256.unwrap", "euint256.wrap"⟩
  | ⟨true, .bytes⟩ => ⟨"ebytes", "ebytes.unwrap", "ebytes.wrap"⟩
  | ⟨false, .bool⟩ => ⟨"bool", "Common.boolToUint", "Common.bigIntToBool"⟩
  | ⟨false, .uint8⟩ => ⟨"uint8", "uint256", "uint8"⟩
  | ⟨false, .uint16⟩ => ⟨"uint16", "uint256", "uint16"⟩
  | ⟨false, .uint32⟩ => ⟨"uint32", "uint256", "uint32"⟩
  | ⟨false, .uint64⟩ => ⟨"uint64", "uint256", "uint64"⟩
  | ⟨false, .uint128⟩ => ⟨"uint128", "uint256", "uint128"⟩
  | ⟨false, .uint256⟩ => ⟨"uint256", "uint256", "uint256"⟩
  | ⟨false, .bytes⟩ => ⟨"bytes memory", "Common.bytesToUint", "Common.uintToBytes"⟩

/-- A type is declared as it is spelled. -/
theorem declared_eq (t : ValueType) : t.declared = t.spelling.declared := by
  obtain ⟨encrypted, width⟩ := t
  cases encrypted <;> cases width <;> rfl

/-- The raw value of an expression is its image under the function that is spelled. -/
theorem unwrapped_eq (t : ValueType) (expr : String) :
    t.unwrapped expr = t.spelling.unwrap ++ "(" ++ expr ++ ")" := by
  obtain ⟨encrypted, width⟩ := t
  cases encrypted <;> cases width <;> rfl

/-- So is the value for a raw expression. -/
theorem wrapped_eq (t : ValueType) (expr : String) :
    t.wrapped expr = t.spelling.wrap ++ "(" ++ expr ++ ")" := by
  obtain ⟨encrypted, width⟩ := t
  cases encrypted <;> cases width <;> rfl

/-- The conversion into an encrypted type is spelled by its width. -/
theorem castName_eq {t : ValueType} (h : t.encrypted = true) :
    t.castName = t.width.spelling.cast := by
  obtain ⟨encrypted, width⟩ := t
  obtain rfl : encrypted = true := h
  -- The name of each type is capitalized character by character.
  cases width <;> decide +kernel

/-- The constant that tells the width of a type is spelled by this width. -/
theorem constant_eq (t : ValueType) : t.constant = t.width.spelling.constant := by
  obtain ⟨encrypted, width⟩ := t
  cases encrypted <;> cases width <;> decide +kernel

end ValueType

end FheSolidity
