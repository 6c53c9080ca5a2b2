import FheSolidity.Metadata.Entry
import FheSolidity.Proofs.Traversal

/-!
# Entries and their operations

What an operation has to be for an entry to stand for it (`Entry.Means`). An entry is resolved
exactly to the operation that it stands for (`resolve_eq_ok_iff`).
-/

namespace FheSolidity.Entry

/-- Whether an entry stands for an operation: its words name the parameters and the result, and if
it claims to have a number of parameters, it has as many. -/
structure Means (entry : Entry) (op : Operation) : Prop where
  /-- The entry has as many parameters as it claims. -/
  arity : ∀ n, entry.arity = some n → n = entry.inputs.length
  /-- The name of the operation is that of the entry. -/
  name : op.name = entry.name
  /-- The words for the parameters name them. -/
  params : List.Forall₂ (fun word param => Parameter.ofWord? word = some param) entry.inputs
    op.params
  /-- The word for the result names the rule, and having none means promotion. -/
  result : ResultRule.ofWord? entry.returns = some op.result
  /-- The operation makes sense on truth values and byte strings if the entry says so. -/
  booleanMath : op.booleanMath = entry.booleanMath
  /-- The inputs should be of one type if the entry says so. -/
  sameType : op.sameType = entry.sameType

/-- Entries that say nothing of their result, or call it encrypted, stand for promotion. -/
theorem Means.result_eq_promoted {entry : Entry} {op : Operation} (h : entry.Means op)
    (hreturns : entry.returns = none ∨ entry.returns = some "encrypted") :
    op.result = .promoted := by
  have hresult := h.result
  rcases hreturns with hnone | hsome
  · rw [hnone] at hresult
    exact (Option.some.inj hresult).symm
  · rw [hsome] at hresult
    exact (Option.some.inj hresult).symm

/-- The number of parameters is right if the entry has as many as it claims. -/
theorem checkArity_eq_ok_iff {entry : Entry} :
    entry.checkArity = .ok () ↔ ∀ n, entry.arity = some n → n = entry.inputs.length := by
  unfold checkArity
  split
  · next harity => simp [harity]
  · next declared harity => simp [harity]

/-- A parameter is found exactly if its word names it. -/
theorem resolveInput_eq_ok_iff {entry : Entry} {word : String} {param : Parameter} :
    entry.resolveInput word = .ok param ↔ Parameter.ofWord? word = some param := by
  unfold resolveInput
  split
  · next hword => rw [hword, Except.ok.injEq, Option.some.injEq]
  · next hword => simp [hword]

/-- A result rule is found exactly if the word of the entry names it. -/
theorem resolveReturns_eq_ok_iff {entry : Entry} {rule : ResultRule} :
    entry.resolveReturns = .ok rule ↔ ResultRule.ofWord? entry.returns = some rule := by
  unfold resolveReturns
  split
  · next hword => rw [hword, Except.ok.injEq, Option.some.injEq]
  · next hword => simp [hword]

/-- An entry is resolved exactly to the operation that it stands for. -/
theorem resolve_eq_ok_iff {entry : Entry} {op : Operation} :
    entry.resolve = .ok op ↔ entry.Means op := by
  unfold resolve
  simp only [bind_eq_ok_iff, mapM_eq_ok_iff, resolveInput_eq_ok_iff, resolveReturns_eq_ok_iff]
  constructor
  · intro h
    obtain ⟨_, harity, params, hparams, result, hresult, hop⟩ := h
    obtain rfl := Except.ok.inj hop
    exact ⟨checkArity_eq_ok_iff.1 harity, rfl, hparams, hresult, rfl, rfl⟩
  · intro h
    refine ⟨(), checkArity_eq_ok_iff.2 h.arity, op.params, h.params, op.result, h.result, ?_⟩
    rw [← h.name, ← h.booleanMath, ← h.sameType]
    rfl

end FheSolidity.Entry
