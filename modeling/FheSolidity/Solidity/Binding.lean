import FheSolidity.Signature
import FheSolidity.Solidity.Symbol

/-!
# Bindings

Every encrypted type has a library of methods, one for each operation that has an overload on
operands of that type alone.
-/

namespace FheSolidity

open Code

/-- A method of an encrypted type. -/
structure Binding where
  /-- The operation that the method performs. -/
  operation : String
  /-- Whether the method takes no operand besides the value it is called on. -/
  unary : Bool
  /-- Whether the result is an encrypted truth value and the operation is not bitwise. -/
  returnsBool : Bool
  deriving DecidableEq, Repr

namespace Binding

/-- The method that an overload on operands of one type gives rise to. -/
def ofSignature (sig : Signature) : Binding :=
  ⟨sig.name, sig.arity == 1, sig.result == .ebool && !isBitwise sig.name⟩

/-- Whether an overload may become a method of a type: a comparison-only type takes overloads on
such types only. -/
def admits (t : ValueType) (sig : Signature) : Bool :=
  !t.isComparisonOnly || sig.inputs.all ValueType.isComparisonOnly

/-- The method that an operation gives a type: that of the first overload on the type alone. -/
def find? (t : ValueType) (sigs : List Signature) (operation : String) : Option Binding :=
  match sigs.find? fun sig => sig.name == operation && sig.isHomogeneous t with
  | some sig => if admits t sig then some (ofSignature sig) else none
  | none => none

/-- The methods of a type. -/
def find (t : ValueType) (sigs : List Signature) : List Binding :=
  methodOperations.filterMap (find? t sigs)

/-- The head of a method. -/
def header (b : Binding) (t : ValueType) : String :=
  "function " ++ b.operation ++ "(" ++ operandParameters t b.unary ++ ") " ++ visibility ++
    " returns (" ++ (operandResult t b.returnsBool).name ++ ")"

/-- A method with its comment, as it stands in the library of a type. -/
def methodCode (b : Binding) (t : ValueType) : Code :=
  blank ++ indent (wrapperComment b.operation ++
    block (b.header t) (wrapperBody b.operation b.unary))

/-- The name of the library of methods of a type. -/
def libraryName (t : ValueType) : String :=
  "Bindings" ++ t.capitalized

/-- The directive that attaches the methods to a type, and the opening of their library. -/
def libraryOpening (t : ValueType) : Code :=
  blank ++ blank ++ line ("using " ++ libraryName t ++ " for " ++ t.name ++ " global;") ++
    opening ("library " ++ libraryName t)

/-- The library of the methods that some overloads give a type. -/
def libraryCode (t : ValueType) (sigs : List Signature) : Code :=
  libraryOpening t ++ (find t sigs).flatMap (fun b => b.methodCode t) ++ libraryEnd

end Binding

end FheSolidity
