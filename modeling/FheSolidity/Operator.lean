import FheSolidity.ValueType

/-!
# Operators

The tables of the operations that get more than a library function: those that are reached through
a symbol, those that are bitwise or logical, and those that become methods of every encrypted type.
-/

namespace FheSolidity

/-- An operation that may be written in short. -/
structure Shorthand where
  /-- The operation's name. -/
  name : String
  /-- Its symbol, if it has one. -/
  symbol : Option String
  /-- Whether it takes one operand instead of two. -/
  unary : Bool
  /-- Whether its result is an encrypted truth value. -/
  returnsBool : Bool

namespace Shorthand

/-- An operation on two operands with a symbol between them. -/
def binary (name symbol : String) : Shorthand :=
  ⟨name, some symbol, false, false⟩

/-- An operation on two operands without a symbol. -/
def named (name : String) (returnsBool : Bool) : Shorthand :=
  ⟨name, none, false, returnsBool⟩

/-- Every operation that may be written in short. -/
def all : List Shorthand :=
  [binary "add" "+", binary "sub" "-", binary "mul" "*", binary "div" "/", binary "rem" "%",
    binary "and" "&", binary "or" "|", binary "xor" "^", ⟨"not", some "~", true, false⟩,
    named "gt" true, named "gte" true, named "lt" true, named "lte" true, named "eq" true,
    named "ne" true, named "min" false, named "max" false, named "shl" false, named "shr" false]

/-- The entry of an operation, by its name. -/
def find? (name : String) : Option Shorthand :=
  all.find? fun op => op.name == name

/-- The symbol of an operation, by its name. -/
def symbolOf? (name : String) : Option String :=
  (find? name).bind symbol

end Shorthand

/-- The operations that apply bit by bit, and so also to truth values and byte strings. -/
def bitwiseOperations : List String :=
  ["and", "or", "xor", "not"]

/-- Whether an operation applies bit by bit. -/
def isBitwise (name : String) : Bool :=
  bitwiseOperations.contains name

/-- Whether a type takes the symbol of an operation. A comparison-only type takes the symbols of the
bitwise operations and no others. -/
def ValueType.takesSymbol (t : ValueType) (operation : String) : Bool :=
  !t.isComparisonOnly || isBitwise operation

/-- The operations that become methods of every encrypted type, in the order of the methods. -/
def methodOperations : List String :=
  ["add", "sub", "mul", "div", "rem", "and", "or", "xor", "gt", "gte", "lt", "lte", "eq", "ne",
    "min", "max", "shl", "shr", "not", "square"]

end FheSolidity
