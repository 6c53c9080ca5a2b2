import FheSolidity.Promotion
import FheSolidity.Signature

/-!
# Expansion into overloads

Each parameter of an operation has a list of candidate types. The overloads are all the ways to
take one candidate for each parameter, in lexicographic order: the first parameter varies slowest
and the last fastest. An operation on two operands that is not meant for truth values and byte
strings does without the comparison-only types among its encrypted candidates.
-/

namespace FheSolidity

/-- All ways to take one element from each list, the last list varying fastest. -/
def choices {α : Type} : List (List α) → List (List α)
  | [] => [[]]
  | list :: lists =>
    let tails := choices lists
    list.flatMap fun a => tails.map fun tail => a :: tail

/-- From an empty list nothing can be taken. -/
theorem choices_eq_nil_of_nil_mem {α : Type} {lists : List (List α)} (h : [] ∈ lists) :
    choices lists = [] := by
  induction lists with
  | nil => simp at h
  | cons list lists ih =>
    rcases List.mem_cons.1 h with rfl | hmem
    · simp [choices]
    · simp [choices, ih hmem]

/-- All combinations of one element from each list. No lists give no combinations, and neither does
an empty list among them, whatever the others hold. -/
def combinations {α : Type} (lists : List (List α)) : List (List α) :=
  if lists.isEmpty || lists.any List.isEmpty then [] else choices lists

/-- The combinations of one list or more are the choices from them. -/
theorem combinations_of_ne_nil {α : Type} {lists : List (List α)} (h : lists ≠ []) :
    combinations lists = choices lists := by
  unfold combinations
  split
  · next hempty =>
    have hmem : [] ∈ lists := by simpa [h] using hempty
    exact (choices_eq_nil_of_nil_mem hmem).symm
  · rfl

namespace Operation

/-- Whether the comparison-only types are excluded from the encrypted candidates. -/
def excludesComparisonOnly (op : Operation) : Bool :=
  op.arity == 2 && !op.booleanMath

/-- The candidate types of every parameter, out of given encrypted and plaintext types. -/
def candidatesIn (op : Operation) (encrypted plaintext : List ValueType) : List (List ValueType) :=
  op.params.map fun
    | .anyEncrypted => encrypted.filter fun t => !(op.excludesComparisonOnly && t.isComparisonOnly)
    | .anyPlaintext => plaintext
    | .exactly type => [type]

/-- The candidate types of every parameter. -/
def candidates (op : Operation) : List (List ValueType) :=
  op.candidatesIn ValueType.encryptedTypes ValueType.plaintextTypes

/-- The overload of an operation on some inputs. -/
def overload (op : Operation) (inputs : List ValueType) : Except Failure Signature := do
  let result ← op.result.resolve op.name inputs
  return ⟨op.name, inputs, result⟩

/-- The overloads of an operation over given encrypted and plaintext types. The first combination
without a result decides the failure. -/
def expandIn (op : Operation) (encrypted plaintext : List ValueType) :
    Except Failure (List Signature) :=
  (combinations (op.candidatesIn encrypted plaintext)).mapM op.overload

/-- The overloads of an operation. -/
def expand (op : Operation) : Except Failure (List Signature) :=
  op.expandIn ValueType.encryptedTypes ValueType.plaintextTypes

end Operation

/-- The overloads of several operations, in their order. -/
def expandAll (ops : List Operation) : Except Failure (List Signature) := do
  let families ← ops.mapM Operation.expand
  return families.flatten

end FheSolidity
