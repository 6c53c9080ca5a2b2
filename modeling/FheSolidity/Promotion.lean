import FheSolidity.Failure
import FheSolidity.Operation

/-!
# The type of a result

Given the types of the inputs, `ResultRule.resolve` finds the type of the result: by promotion to
the widest input in encrypted form, by extraction of the only input's plaintext, or by a fixed
type. Promotion never fails, and neither does a fixed type.
-/

namespace FheSolidity

/-- The greatest width among some types, or the least of all widths if there are none. -/
def widest : List ValueType → Width
  | [] => .bool
  | t :: rest => t.width.max (widest rest)

/-- The encrypted type that can hold every input. A byte string among the inputs asks for encrypted
bytes, and otherwise the widest input decides. -/
def promote (inputs : List ValueType) : ValueType :=
  if inputs.any ValueType.isByteLike then .ebytes else ⟨true, widest inputs⟩

/-- The plaintext counterpart of the only input, which must be encrypted. -/
def extractPlaintext (function : String) : List ValueType → Except Failure ValueType
  | [input] =>
    if input.encrypted then .ok input.toPlaintext else .error (.extractionInput function input)
  | inputs => .error (.extractionArity function inputs.length)

/-- The type of the result of a function on some inputs. -/
def ResultRule.resolve (rule : ResultRule) (function : String) (inputs : List ValueType) :
    Except Failure ValueType :=
  match rule with
  | .promoted => .ok (promote inputs)
  | .extracted => extractPlaintext function inputs
  | .exactly type => .ok type

end FheSolidity
