import FheSolidity.Failure
import FheSolidity.Operator
import FheSolidity.Solidity.Code

/-!
# Symbols of operations

The free functions that attach the symbols of operations to encrypted types. A comparison-only type
gets the symbols of the bitwise operations and no others.
-/

namespace FheSolidity

open Code

/-- The parameters of a wrapper on one or two operands of a type. -/
def operandParameters (t : ValueType) (unary : Bool) : String :=
  if unary then t.name ++ " value" else t.name ++ " lhs, " ++ t.name ++ " rhs"

/-- The operands of a wrapper, as it passes them on. -/
def operandNames (unary : Bool) : String :=
  if unary then "value" else "lhs, rhs"

/-- The result of a wrapper over operands of a type. -/
def operandResult (t : ValueType) (returnsBool : Bool) : ValueType :=
  if returnsBool then .ebool else t

/-- The comment before a wrapper. -/
def wrapperComment (operation : String) : Code :=
  line ("/// @notice Performs the " ++ operation ++ " operation")

/-- The body of a wrapper, which calls the library. -/
def wrapperBody (operation : String) (unary : Bool) : Code :=
  line ("return FHE." ++ operation ++ "(" ++ operandNames unary ++ ");")

/-- The name of the function that a symbol stands for. -/
def overloadName (operation : String) (t : ValueType) : String :=
  "operator" ++ Text.capitalize operation ++ t.capitalized

/-- The function that a symbol stands for on a type, after the directive that attaches it. -/
def symbolCode (operation symbol : String) (t : ValueType) (unary returnsBool : Bool) : Code :=
  blank ++
    line ("using \x7b" ++ overloadName operation t ++ " as " ++ symbol ++ "\x7d for " ++ t.name ++
      " global;") ++
    wrapperComment operation ++
    block ("function " ++ overloadName operation t ++ "(" ++ operandParameters t unary ++
      ") pure returns (" ++ (operandResult t returnsBool).name ++ ")")
      (wrapperBody operation unary)

/-- The declaration that attaches the symbol of an operation to a type, if the type gets it. A
plaintext type cannot be asked for. -/
def Shorthand.symbolOn? (op : Shorthand) (symbol : String) (t : ValueType) :
    Except Failure (Option String) :=
  if !t.encrypted then .error (.plaintextOperator op.name t)
  else if t.takesSymbol op.name then
    .ok (some (symbolCode op.name symbol t op.unary op.returnsBool).render)
  else .ok none

/-- The declarations that attach the symbol of an operation to some types. -/
def Shorthand.symbolsOn (op : Shorthand) (types : List ValueType) : Except Failure (List String) :=
  match op.symbol with
  | none => .ok []
  | some symbol => do
    let declarations ← types.mapM (op.symbolOn? symbol)
    return declarations.filterMap id

/-- The declarations that attach the symbols of all operations to some types. -/
def symbolsOn (types : List ValueType) : Except Failure (List String) := do
  let declarations ← Shorthand.all.mapM fun op => op.symbolsOn types
  return declarations.flatten

end FheSolidity
