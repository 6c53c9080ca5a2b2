import FheSolidity.Proofs.Expansion.Overloads

/-!
# The overloads of operations over all types

Over all types no parameter is without candidates, so an operation with parameters has an overload
or a failure. `extractionFault?` reads that failure off the description, and `expand_eq_error_iff`
says that there is no other. An operation has an overload on exactly the inputs that it takes
(`mem_combinations_candidates_iff`), and several operations have the overloads of each, in their
order (`expandAll_eq_ok_iff`).
-/

namespace FheSolidity

namespace Parameter

/-- The types that a parameter stands for if its operation excludes none. -/
def types : Parameter → List ValueType
  | anyEncrypted => ValueType.encryptedTypes
  | anyPlaintext => ValueType.plaintextTypes
  | exactly t => [t]

/-- The first plaintext type that a parameter stands for is the truth value or the only one. -/
theorem eq_of_types_eq_append {param : Parameter} {before after : List ValueType} {t : ValueType}
    (h : param.types = before ++ t :: after) (hbefore : ∀ u ∈ before, u.encrypted = true)
    (hplain : t.encrypted = false) :
    param = anyPlaintext ∧ t = .bool ∨ param = exactly t := by
  cases param with
  | anyEncrypted =>
    have hmem : t ∈ types anyEncrypted := by
      rw [h]
      exact List.mem_append_right _ List.mem_cons_self
    obtain ⟨width, -, rfl⟩ := List.mem_map.1 hmem
    exact nomatch hplain
  | anyPlaintext =>
    cases before with
    | nil => exact .inl ⟨rfl, (List.cons.inj h).1.symm⟩
    | cons u before =>
      have hu := hbefore u List.mem_cons_self
      rw [← (List.cons.inj h).1] at hu
      exact nomatch hu
  | exactly u =>
    cases before with
    | nil => exact .inr (congrArg _ (List.cons.inj h).1)
    | cons v before => exact absurd (List.cons.inj h).2.symm (by simp)

end Parameter

namespace Operation

/-- Every parameter has a candidate. -/
theorem nil_not_mem_candidates (op : Operation) : [] ∉ op.candidates := by
  intro h
  obtain ⟨param, -, hparam⟩ := List.mem_map.1 h
  cases param with
  | anyEncrypted =>
    change (ValueType.encryptedTypes.filter fun t =>
      !(op.excludesComparisonOnly && t.isComparisonOnly)) = [] at hparam
    -- An encrypted integer is a candidate even where the comparison-only types are not.
    have hmem : (⟨true, .uint8⟩ : ValueType) ∈ ValueType.encryptedTypes.filter fun t =>
        !(op.excludesComparisonOnly && t.isComparisonOnly) := by
      rw [List.mem_filter]
      refine ⟨by decide, ?_⟩
      rw [show (⟨true, .uint8⟩ : ValueType).isComparisonOnly = false by decide, Bool.and_false]
      rfl
    rw [hparam] at hmem
    exact List.not_mem_nil hmem
  | anyPlaintext => exact absurd hparam (List.cons_ne_nil _ _)
  | exactly t => exact absurd hparam (List.cons_ne_nil _ _)

/-! ## Failures -/

/-- Why an operation cannot be expanded, read off its description: plaintext is to be extracted from
more than one input, or from one that can be plaintext. -/
def extractionFault? (op : Operation) : Option Failure :=
  match op.result, op.params with
  | .extracted, [.anyPlaintext] => some (.extractionInput op.name .bool)
  | .extracted, [.exactly t] =>
    if t.encrypted then none else some (.extractionInput op.name t)
  | .extracted, _ :: _ :: _ => some (.extractionArity op.name op.arity)
  | _, _ => none

/-- A fault of extraction never concerns a symbol. -/
theorem extractionFault?_ne_plaintextOperator (op : Operation) (operation : String)
    (t : ValueType) : op.extractionFault? ≠ some (.plaintextOperator operation t) := by
  intro h
  unfold extractionFault? at h
  split at h
  · exact nomatch h
  · rw [Option.ite_none_left_eq_some] at h
    exact nomatch h.2
  · exact nomatch h
  · exact nomatch h

/-- A single parameter has all types that it stands for as candidates. -/
theorem candidates_of_params_eq_singleton {op : Operation} {param : Parameter}
    (h : op.params = [param]) : op.candidates = [param.types] := by
  have hnone : op.excludesComparisonOnly = false := by
    apply excludesComparisonOnly_of_arity_ne_two
    rw [arity, h, List.length_singleton]
    decide
  rw [candidates, candidatesIn_eq_map_filter, h, hnone]
  simp only [Bool.false_and, Bool.not_false, List.filter_true]
  cases param <;> rfl

/-- The faults of extraction over all types are those that the description tells. -/
theorem extractionFault_iff {op : Operation} {e : Failure} :
    op.ExtractionFault ValueType.encryptedTypes ValueType.plaintextTypes e ↔
      op.extractionFault? = some e := by
  constructor
  · intro h
    unfold extractionFault?
    cases h with
    | arity hrule hseveral =>
      match hparams : op.params with
      | [] =>
        rw [arity, hparams] at hseveral
        exact absurd hseveral (Nat.not_lt_zero 1)
      | [_] =>
        rw [arity, hparams] at hseveral
        exact absurd hseveral (Nat.lt_irrefl 1)
      | p :: q :: params =>
        rw [hrule]
        cases p <;> rfl
    | input hrule hcandidates hbefore hplain =>
      obtain ⟨param, hparams⟩ : ∃ param, op.params = [param] := by
        rw [← List.length_eq_one_iff]
        exact (op.length_candidatesIn _ _).symm.trans (congrArg List.length hcandidates)
      have htypes := (candidates_of_params_eq_singleton hparams).symm.trans hcandidates
      rw [hrule, hparams]
      rcases Parameter.eq_of_types_eq_append (List.cons.inj htypes).1 hbefore hplain with
        ⟨rfl, rfl⟩ | rfl
      · rfl
      · exact if_neg (by rw [hplain]; exact Bool.false_ne_true)
  · intro h
    unfold extractionFault? at h
    split at h
    · next hrule hparams =>
      -- The first plaintext candidate is the truth value.
      rw [← Option.some.inj h]
      exact @ExtractionFault.input op _ _ [] _ .bool hrule
        (candidates_of_params_eq_singleton hparams) (List.forall_mem_nil _) rfl
    · next t hrule hparams =>
      rw [Option.ite_none_left_eq_some] at h
      obtain ⟨hplain, he⟩ := h
      rw [← Option.some.inj he]
      exact @ExtractionFault.input op _ _ [] _ t hrule
        (candidates_of_params_eq_singleton hparams) (List.forall_mem_nil _)
        (Bool.eq_false_of_not_eq_true hplain)
    · next p q params hrule hparams =>
      rw [← Option.some.inj h]
      refine .arity hrule ?_
      rw [arity, hparams]
      exact Nat.succ_lt_succ (Nat.succ_pos _)
    · exact absurd h.symm (Option.some_ne_none _)

/-- An operation fails to expand exactly for the fault of its description. -/
theorem expand_eq_error_iff {op : Operation} {e : Failure} :
    op.expand = .error e ↔ op.extractionFault? = some e := by
  by_cases hparams : op.params = []
  · have hexpand : op.expand = .ok [] := expandIn_of_combinations_eq_nil (.inl hparams)
    rw [hexpand, ← extractionFault_iff]
    refine iff_of_false (nomatch ·) ?_
    intro h
    obtain ⟨-, harity | ⟨list, hlist, -⟩⟩ := exists_extractionFault_iff.1 ⟨e, h⟩
    · rw [arity, hparams] at harity
      exact absurd harity (by decide)
    · rw [candidatesIn, hparams] at hlist
      exact absurd hlist.symm (List.cons_ne_nil _ _)
  · rw [← extractionFault_iff]
    exact expandIn_eq_error_iff hparams op.nil_not_mem_candidates

/-! ## Overloads -/

/-- An operation takes some inputs if it has parameters and each input is a candidate of its own. -/
def Takes (op : Operation) (inputs : List ValueType) : Prop :=
  op.params ≠ [] ∧ List.Forall₂ (· ∈ ·) inputs op.candidates

/-- The combinations of candidates are the inputs that an operation takes. -/
theorem mem_combinations_candidates_iff {op : Operation} {inputs : List ValueType} :
    inputs ∈ combinations op.candidates ↔ op.Takes inputs := by
  rw [mem_combinations_iff, Takes, ne_eq, ne_eq, candidates, candidatesIn, List.map_eq_nil_iff]

/-- An operation with parameters takes operands of one type exactly if this is a candidate of every
parameter. -/
theorem takes_replicate_iff {op : Operation} {t : ValueType} :
    op.Takes (List.replicate op.arity t) ↔
      op.params ≠ [] ∧ ∀ list ∈ op.candidates, t ∈ list := by
  have hlength : op.candidates.length = op.arity := op.length_candidatesIn _ _
  rw [Takes, ← hlength, ← List.map_const', List.forall₂_map_left_iff, List.forall₂_same]

/-- An operation with parameters that can be expanded has an overload. -/
theorem expand_ne_nil {op : Operation} (hparams : op.params ≠ []) {sigs : List Signature}
    (h : op.expand = .ok sigs) : sigs ≠ [] := by
  rintro rfl
  have hnone : combinations op.candidates = [] := (expandIn_eq_ok_iff.1 h).1.symm
  rw [combinations_eq_nil_iff] at hnone
  rcases hnone with hnone | hnone
  · exact candidatesIn_ne_nil hparams hnone
  · exact op.nil_not_mem_candidates hnone

end Operation

/-- The overloads of several operations are those of each, in the order of the operations. -/
theorem expandAll_eq_ok_iff {ops : List Operation} {sigs : List Signature} :
    expandAll ops = .ok sigs ↔
      ∃ families, List.Forall₂ (fun op family => op.expand = .ok family) ops families ∧
        families.flatten = sigs := by
  unfold expandAll
  rw [bind_eq_ok_iff]
  simp only [mapM_eq_ok_iff]
  constructor
  · intro h
    obtain ⟨families, hfamilies, hsigs⟩ := h
    exact ⟨families, hfamilies, Except.ok.inj hsigs⟩
  · intro h
    obtain ⟨families, hfamilies, rfl⟩ := h
    exact ⟨families, hfamilies, rfl⟩

namespace Operation

/-- The overloads of an operation, of which there are none if it cannot be expanded. -/
def overloads (op : Operation) : List Signature :=
  op.expand.toOption.getD []

/-- An operation that can be expanded has as many overloads as there are ways to take a candidate of
each parameter, and none without parameters. -/
theorem length_overloads {op : Operation} (h : op.expand = .ok op.overloads) :
    op.overloads.length =
      if op.params = [] then 0 else (op.candidates.map List.length).prod := by
  have hinputs : op.overloads.map Signature.inputs = combinations op.candidates :=
    (expandIn_eq_ok_iff.1 h).1
  have hlength : op.overloads.length = (combinations op.candidates).length := by
    rw [← hinputs, List.length_map]
  rw [hlength]
  split
  · next hparams =>
    have hnone : op.candidates = [] := List.map_eq_nil_iff.2 hparams
    rw [hnone]
    rfl
  · next hparams =>
    have hlists : op.candidates ≠ [] := candidatesIn_ne_nil hparams
    rw [combinations_of_ne_nil hlists, length_choices]

end Operation

/-- Several operations can be expanded exactly if each of them can, and then their overloads are
those of each, in the order of the operations. -/
theorem expandAll_eq_ok_iff_overloads {ops : List Operation} {sigs : List Signature} :
    expandAll ops = .ok sigs ↔
      (∀ op ∈ ops, op.expand = .ok op.overloads) ∧ sigs = ops.flatMap Operation.overloads := by
  unfold expandAll
  rw [bind_eq_ok_iff]
  simp only [mapM_eq_ok_iff_map []]
  constructor
  · intro h
    obtain ⟨families, ⟨hops, rfl⟩, hsigs⟩ := h
    rw [← Except.ok.inj hsigs]
    exact ⟨hops, rfl⟩
  · intro h
    obtain ⟨hops, rfl⟩ := h
    exact ⟨_, ⟨hops, rfl⟩, rfl⟩

/-- Operations that can be expanded together can be expanded alone. -/
theorem exists_expand_of_mem {ops : List Operation} {sigs : List Signature}
    (h : expandAll ops = .ok sigs) {op : Operation} (hop : op ∈ ops) :
    ∃ family, op.expand = .ok family ∧ ∀ sig ∈ family, sig ∈ sigs := by
  obtain ⟨families, hfamilies, rfl⟩ := expandAll_eq_ok_iff.1 h
  clear h
  induction hfamilies with
  | nil => exact absurd hop List.not_mem_nil
  | @cons first family ops families hfirst _ ih =>
    rcases List.mem_cons.1 hop with rfl | hop
    · exact ⟨family, hfirst, fun sig hsig => List.mem_append_left _ hsig⟩
    · obtain ⟨family', hfamily', hmem⟩ := ih hop
      exact ⟨family', hfamily', fun sig hsig => List.mem_append_right _ (hmem sig hsig)⟩

/-- Every overload of some operations is one of a single of them. -/
theorem exists_of_mem_expandAll {ops : List Operation} {sigs : List Signature}
    (h : expandAll ops = .ok sigs) {sig : Signature} (hsig : sig ∈ sigs) :
    ∃ op ∈ ops, ∃ family, op.expand = .ok family ∧ sig ∈ family := by
  unfold expandAll at h
  obtain ⟨families, hfamilies, hsigs⟩ := bind_eq_ok_iff.1 h
  rw [← Except.ok.inj hsigs, List.mem_flatten] at hsig
  obtain ⟨family, hfamily, hsig⟩ := hsig
  obtain ⟨op, hop, hexpand⟩ := exists_of_mem_mapM hfamilies hfamily
  exact ⟨op, hop, family, hexpand, hsig⟩

end FheSolidity
