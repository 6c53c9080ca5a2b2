import FheSolidity.ValueType

/-!
# Operations

An operation as the metadata describes it, before it is expanded into overloads: what each of its
parameters may be, and how the type of its result is found.
-/

namespace FheSolidity

/-- What a parameter of an operation stands for. -/
inductive Parameter
  /-- Every encrypted type, short of those that the operation excludes. -/
  | anyEncrypted
  /-- Every plaintext type. -/
  | anyPlaintext
  /-- This type alone. -/
  | exactly (type : ValueType)
  deriving DecidableEq, Repr

/-- The parameter that a word of the metadata stands for: one of two class names, or a type. -/
def Parameter.ofWord? (word : String) : Option Parameter :=
  if word = "encrypted" then some .anyEncrypted
  else if word = "plaintext" then some .anyPlaintext
  else (ValueType.ofName? word).map .exactly

/-- How the result of a parameter is written in a log line. -/
def Parameter.shown : Parameter → String
  | .anyEncrypted => "Encrypted"
  | .anyPlaintext => "Plaintext"
  | .exactly type => "Fixed(" ++ type.capitalized ++ ")"

/-- How the type of an overload's result is found. -/
inductive ResultRule
  /-- The encrypted type of the highest rank among the inputs. -/
  | promoted
  /-- The plaintext counterpart of the only input, which is encrypted. -/
  | extracted
  /-- This type, whatever the inputs. -/
  | exactly (type : ValueType)
  deriving DecidableEq, Repr

/-- The rule that the metadata names. Saying nothing and saying `encrypted` both mean promotion. -/
def ResultRule.ofWord? : Option String → Option ResultRule
  | none => some .promoted
  | some word =>
    if word = "encrypted" then some .promoted
    else if word = "plaintext" then some .extracted
    else (ValueType.ofName? word).map .exactly

/-- A generic operation, which stands for a family of overloads. -/
structure Operation where
  /-- The name of every overload. -/
  name : String
  /-- What each parameter stands for. -/
  params : List Parameter
  /-- How the type of the result is found. -/
  result : ResultRule
  /-- Whether the operation also makes sense on truth values and byte strings. -/
  booleanMath : Bool
  /-- Whether the metadata asks for inputs of one type. Nothing depends on it. -/
  sameType : Bool
  deriving DecidableEq, Repr

namespace Operation

/-- The number of parameters. -/
def arity (op : Operation) : Nat :=
  op.params.length

/-- Whether every parameter stands for every encrypted type. -/
def allEncrypted (op : Operation) : Bool :=
  op.params.all fun param => param == .anyEncrypted

end Operation

end FheSolidity
