import FheSolidity.Solidity.Binding
import FheSolidity.Solidity.Cast
import FheSolidity.Solidity.Preamble

/-!
# Heads of functions

Four kinds of function are written with a head of the same form: the functions of the signatures,
the conversions, the helpers that tell whether a value is initialized, and the methods. Each writes
its head in its own way. A `Head` holds what such a text declares, and the text of every kind is
that of the head for it.
-/

namespace FheSolidity

/-- What the head of a function declares. -/
structure Head where
  /-- The function's name. -/
  name : String
  /-- The type and the name of every parameter. -/
  parameters : List (ValueType × String)
  /-- The type of the result. -/
  result : ValueType

namespace Head

/-- The types of the parameters. -/
def inputs (head : Head) : List ValueType :=
  head.parameters.map Prod.fst

/-- The head as it is written. -/
def text (head : Head) : String :=
  "function " ++ head.name ++ "(" ++
    ", ".intercalate (head.parameters.map fun p => p.1.declared ++ " " ++ p.2) ++ ") " ++
    visibility ++ " returns (" ++ head.result.declared ++ ")"

end Head

/-- An encrypted type is declared by its name alone. -/
theorem ValueType.declared_of_encrypted {t : ValueType} (h : t.encrypted = true) :
    t.declared = t.name := by
  have hbytes : t ≠ bytes := by
    rintro rfl
    exact nomatch h
  unfold declared dataLocation?
  rw [if_neg hbytes]

namespace Signature

/-- The head of the function with a signature. -/
def head (sig : Signature) : Head :=
  ⟨sig.name, sig.inputs.zipIdx.map fun (t, i) => (t, inputName i), sig.result⟩

/-- The head of a function takes the inputs of the signature. -/
theorem inputs_head (sig : Signature) : sig.head.inputs = sig.inputs := by
  unfold Head.inputs head
  rw [List.map_map]
  exact List.zipIdx_map_fst 0 sig.inputs

/-- A function is written with its head. -/
theorem text_head (sig : Signature) : sig.head.text = sig.header := by
  unfold Head.text head header parameterList
  rw [List.map_map]
  rfl

end Signature

namespace Cast

/-- The head of a conversion function. -/
def head (c : Cast) : Head :=
  ⟨c.target.castName, [(c.source, "value")], c.target⟩

/-- A conversion into an encrypted type is written with its head. -/
theorem text_head {c : Cast} (h : c.target.encrypted = true) : c.head.text = c.header := by
  unfold Head.text head header
  rw [ValueType.declared_of_encrypted h, List.map_singleton, String.intercalate_singleton]
  simp only [String.append_assoc, String.reduceAppend]

end Cast

namespace Preamble

/-- The head of the function that tells whether a value of a type is initialized. -/
def isInitializedHead (t : ValueType) : Head :=
  ⟨"isInitialized", [(t, "v")], .bool⟩

/-- The function that tells whether a value of an encrypted type is initialized is written with its
head. -/
theorem isInitialized_eq {t : ValueType} (h : t.encrypted = true) :
    isInitialized t = Code.blank ++ Code.block (isInitializedHead t).text
      (Code.line ("return " ++ t.name ++ ".unwrap(v) != 0;")) := by
  have htext : (isInitializedHead t).text =
      "function " ++ "isInitialized" ++ "(" ++ (t.name ++ " v") ++ ") " ++ visibility ++
        " returns (" ++ "bool" ++ ")" := by
    unfold Head.text isInitializedHead
    rw [List.map_singleton, String.intercalate_singleton, ValueType.declared_of_encrypted h]
    simp only [String.append_assoc]
    rfl
  rw [htext]
  rfl

end Preamble

namespace Binding

/-- The head of a method of a type. -/
def head (b : Binding) (t : ValueType) : Head :=
  ⟨b.operation, if b.unary then [(t, "value")] else [(t, "lhs"), (t, "rhs")],
    operandResult t b.returnsBool⟩

/-- A method of an encrypted type is written with its head. -/
theorem text_head (b : Binding) {t : ValueType} (h : t.encrypted = true) :
    (b.head t).text = b.header t := by
  have hresult : (operandResult t b.returnsBool).declared =
      (operandResult t b.returnsBool).name := by
    apply ValueType.declared_of_encrypted
    unfold operandResult
    split
    · rfl
    · exact h
  have hparameters : ", ".intercalate
      ((b.head t).parameters.map fun p => p.1.declared ++ " " ++ p.2) =
        operandParameters t b.unary := by
    unfold head operandParameters
    rw [← ValueType.declared_of_encrypted h]
    cases b.unary with
    | true => exact String.append_assoc
    | false =>
      show (t.declared ++ " " ++ "lhs") ++ ", " ++ (t.declared ++ " " ++ "rhs") =
        (t.declared ++ " lhs, ") ++ t.declared ++ " rhs"
      simp only [String.append_assoc, String.reduceAppend]
  unfold Head.text header
  rw [hparameters]
  exact congrArg (fun result => _ ++ result ++ ")") hresult

end Binding

end FheSolidity
