import FheSolidity.Proofs.Generation.Tested

/-!
# Tests and results

How an operation is tested is decided by its parameters and its result rule, before it is expanded.
`tested_by_results` says what the decision comes to in terms of the overloads. An operation on
two encrypted operands is tested by its truth value exactly if all of its overloads return one, since
neither promotion nor a fixed type of another kind does so on all operands. An operation on one
encrypted operand is tested exactly if every overload returns the type of its operand, which only
promotion does. So a fixed result is not tested there, not even an encrypted one: this is the one
shape where the tests fall short of all operations from an encrypted operand to an encrypted result.
-/

namespace FheSolidity

namespace Operation

/-! ## Results of overloads -/

variable {op : Operation} {sigs : List Signature}

/-- An operation on encrypted operands has an overload on every type that is not comparison-only,
whatever it excludes. -/
theorem exists_inputs_eq_replicate (h : op.expand = .ok sigs) {n : Nat} (hn : n ≠ 0)
    (hparams : op.params = List.replicate n .anyEncrypted) {t : ValueType}
    (ht : t ∈ ValueType.encryptedTypes) (hcomparison : t.isComparisonOnly = false) :
    ∃ sig ∈ sigs, sig.inputs = List.replicate n t := by
  rw [exists_inputs_eq_iff h, takes_replicate_anyEncrypted_iff hn hparams, hcomparison]
  exact ⟨ht, Bool.and_false _⟩

/-- The result of an overload is the one that the rule finds on its inputs. -/
theorem resolve_of_mem_expand (h : op.expand = .ok sigs) {sig : Signature} (hsig : sig ∈ sigs) :
    op.result.resolve op.name sig.inputs = .ok sig.result :=
  (mem_expandIn h sig hsig).2.2

/-- An operation on two encrypted operands returns truth values on all of them exactly if its rule
says so. -/
theorem forall_result_eq_ebool_iff (h : op.expand = .ok sigs)
    (hparams : op.params = [.anyEncrypted, .anyEncrypted]) :
    (∀ sig ∈ sigs, sig.result = .ebool) ↔ op.result = .exactly .ebool := by
  constructor
  · intro hresults
    -- The overload on integers of one byte tells the rule from all others.
    obtain ⟨sig, hsig, hinputs⟩ :=
      @exists_inputs_eq_replicate op sigs h 2 two_ne_zero hparams ⟨true, .uint8⟩ (by decide) rfl
    have hresult := resolve_of_mem_expand h hsig
    rw [hresults sig hsig, hinputs] at hresult
    cases hrule : op.result with
    | promoted =>
      rw [hrule] at hresult
      exact absurd (Except.ok.inj hresult) (by decide)
    | extracted =>
      rw [hrule] at hresult
      exact nomatch hresult
    | exactly t =>
      rw [hrule] at hresult
      rw [Except.ok.inj hresult]
  · intro hrule sig hsig
    have hresult := resolve_of_mem_expand h hsig
    rw [hrule] at hresult
    exact (Except.ok.inj hresult).symm

/-- Every overload of an operation on one encrypted operand is on an encrypted type. -/
theorem exists_inputs_eq_singleton (h : op.expand = .ok sigs) (hparams : op.params = [.anyEncrypted])
    {sig : Signature} (hsig : sig ∈ sigs) :
    ∃ t : ValueType, t.encrypted = true ∧ sig.inputs = [t] := by
  have htakes : op.Takes sig.inputs := (exists_inputs_eq_iff h).1 ⟨sig, hsig, rfl⟩
  obtain ⟨-, hmem⟩ := htakes
  rw [candidates_of_params_eq_singleton hparams, List.forall₂_cons_right_iff] at hmem
  obtain ⟨t, rest, ht, hrest, hinputs⟩ := hmem
  rw [List.forall₂_nil_right_iff] at hrest
  rw [hrest] at hinputs
  exact ⟨t, encrypted_of_mem_encryptedTypes ht, hinputs⟩

/-- An operation on one encrypted operand has an overload on every type that is not
comparison-only, and its result is the one that the rule finds on this type. -/
theorem exists_resolve_singleton (h : op.expand = .ok sigs) (hparams : op.params = [.anyEncrypted])
    (t : ValueType) (ht : t ∈ ValueType.encryptedTypes) (hcomparison : t.isComparisonOnly = false) :
    ∃ sig ∈ sigs, sig.inputs = [t] ∧ op.result.resolve op.name [t] = .ok sig.result := by
  obtain ⟨sig, hsig, hinputs⟩ :=
    @exists_inputs_eq_replicate op sigs h 1 one_ne_zero hparams t ht hcomparison
  have hresult := resolve_of_mem_expand h hsig
  rw [hinputs] at hresult
  exact ⟨sig, hsig, hinputs, hresult⟩

/-- An operation on one encrypted operand returns the type of its operand everywhere exactly if its
result is promoted. -/
theorem forall_inputs_eq_result_iff (h : op.expand = .ok sigs)
    (hparams : op.params = [.anyEncrypted]) :
    (∀ sig ∈ sigs, sig.inputs = [sig.result]) ↔ op.result = .promoted := by
  constructor
  · intro hall
    obtain ⟨byte, hbyte, hinputs, hresult⟩ :=
      exists_resolve_singleton h hparams ⟨true, .uint8⟩ (by decide) rfl
    obtain ⟨word, hword, hinputs', hresult'⟩ :=
      exists_resolve_singleton h hparams ⟨true, .uint16⟩ (by decide) rfl
    have hsame : byte.result = ⟨true, .uint8⟩ :=
      (List.singleton_inj.1 (hinputs.symm.trans (hall byte hbyte))).symm
    have hsame' : word.result = ⟨true, .uint16⟩ :=
      (List.singleton_inj.1 (hinputs'.symm.trans (hall word hword))).symm
    rw [hsame] at hresult
    rw [hsame'] at hresult'
    cases hrule : op.result with
    | promoted => rfl
    | extracted =>
      -- The result is a plaintext type, which the operand is not.
      rw [hrule] at hresult
      exact absurd (Except.ok.inj hresult) (by decide)
    | exactly t =>
      -- The result would be of both types.
      rw [hrule] at hresult hresult'
      have heq : (⟨true, .uint8⟩ : ValueType) = ⟨true, .uint16⟩ :=
        (Except.ok.inj hresult).symm.trans (Except.ok.inj hresult')
      exact absurd heq (by decide)
  · intro hrule sig hsig
    obtain ⟨t, ht, hinputs⟩ := exists_inputs_eq_singleton h hparams hsig
    have hresult := resolve_of_mem_expand h hsig
    rw [hrule, hinputs] at hresult
    have hpromote : promote [t] = t := @promote_replicate t ht 1 one_ne_zero
    rw [hinputs, ← Except.ok.inj hresult, hpromote]

/-- An operation on one encrypted operand returns encrypted types everywhere exactly if its result is
promoted or fixed to one. -/
theorem forall_result_encrypted_iff (h : op.expand = .ok sigs)
    (hparams : op.params = [.anyEncrypted]) :
    (∀ sig ∈ sigs, sig.result.encrypted = true) ↔
      op.result = .promoted ∨ ∃ t : ValueType, t.encrypted = true ∧ op.result = .exactly t := by
  constructor
  · intro hall
    obtain ⟨sig, hsig, -, hresult⟩ :=
      exists_resolve_singleton h hparams ⟨true, .uint8⟩ (by decide) rfl
    have hencrypted := hall sig hsig
    cases hrule : op.result with
    | promoted => exact .inl rfl
    | extracted =>
      rw [hrule] at hresult
      rw [← Except.ok.inj hresult] at hencrypted
      exact absurd hencrypted (by decide)
    | exactly t =>
      rw [hrule] at hresult
      rw [← Except.ok.inj hresult] at hencrypted
      exact .inr ⟨t, hencrypted, rfl⟩
  · intro hrule sig hsig
    have hresult := resolve_of_mem_expand h hsig
    rcases hrule with hrule | ⟨t, ht, hrule⟩ <;> rw [hrule] at hresult
    · rw [← Except.ok.inj hresult, promote_eq]
    · rw [← Except.ok.inj hresult]
      exact ht

/-! ## The decision -/

/-- The decision how an operation is tested, in terms of its overloads, where a test on one operand
asks for something of every overload. -/
structure TestedBy (op : Operation) (sigs : List Signature) (asks : Signature → Prop) : Prop where
  /-- Operations on two encrypted operands that return truth values are tested by these. -/
  comparison : op.testTemplate? = some .comparison ↔
    op.params = [.anyEncrypted, .anyEncrypted] ∧ ∀ sig ∈ sigs, sig.result = .ebool
  /-- The others on two encrypted operands are tested by their results, and by their symbols. -/
  binary : ∀ symbol, op.testTemplate? = some (.binary symbol) ↔
    Shorthand.symbolOf? op.name = symbol ∧ op.params = [.anyEncrypted, .anyEncrypted] ∧
      ∃ sig ∈ sigs, sig.result ≠ .ebool
  /-- Operations on one encrypted operand are tested if all overloads are as asked for. -/
  unary : op.testTemplate? = some .unary ↔ op.params = [.anyEncrypted] ∧ ∀ sig ∈ sigs, asks sig
  /-- Operations on three operands are tested whatever these are. -/
  ternary : op.testTemplate? = some .ternary ↔ op.params.length = 3
  /-- All others are not tested. -/
  untested : op.testTemplate? = none ↔ op.params ≠ [.anyEncrypted, .anyEncrypted] ∧
    ¬(op.params = [.anyEncrypted] ∧ ∀ sig ∈ sigs, asks sig) ∧ op.params.length ≠ 3

/-- The decision is as `TestedBy` says if what it asks for is what the rule of promotion gives. -/
theorem TestedBy.of_iff_promoted {asks : Signature → Prop} (h : op.expand = .ok sigs)
    (hreq : op.name ≠ "req") (hreencrypt : op.name ≠ "reencrypt")
    (hasks : op.params = [.anyEncrypted] → ((∀ sig ∈ sigs, asks sig) ↔ op.result = .promoted)) :
    op.TestedBy sigs asks := by
  have hdecision := testTemplate?_eq hreq hreencrypt
  by_cases htwo : op.params = [.anyEncrypted, .anyEncrypted]
  · -- On two encrypted operands the rule says whether all results are truth values.
    have hresults := forall_result_eq_ebool_iff h htwo
    have hother : (∃ sig ∈ sigs, sig.result ≠ .ebool) ↔ op.result ≠ .exactly .ebool := by
      rw [ne_eq, ← hresults]
      push Not
      exact Iff.rfl
    rw [if_pos htwo] at hdecision
    by_cases hrule : op.result = .exactly .ebool
    · rw [if_pos hrule] at hdecision
      constructor <;> simp [hdecision, htwo, hresults, hother, hrule]
    · rw [if_neg hrule] at hdecision
      constructor <;> simp [hdecision, htwo, hresults, hother, hrule]
  · rw [if_neg htwo] at hdecision
    by_cases hone : op.params = [.anyEncrypted]
    · -- On one encrypted operand the rule says whether the overloads are as asked for.
      have hasked := hasks hone
      by_cases hrule : op.result = .promoted
      · rw [if_pos ⟨hone, hrule⟩] at hdecision
        constructor <;> simp [hdecision, hone, hasked, hrule]
      · rw [if_neg fun h => hrule h.2, if_neg (by rw [hone]; decide)] at hdecision
        constructor <;> simp [hdecision, hone, hasked, hrule]
    · -- On any others the number of the operands decides alone.
      rw [if_neg fun h => hone h.1] at hdecision
      by_cases hthree : op.params.length = 3
      · rw [if_pos hthree] at hdecision
        constructor <;> simp [hdecision, htwo, hone, hthree]
      · rw [if_neg hthree] at hdecision
        constructor <;> simp [hdecision, htwo, hone, hthree]

/-- **How operations are tested, in terms of their overloads.** The decision is the one that asks
every overload on one operand for the type of this operand. It would also be the one that asks only
for an encrypted type, were it not for the operations on one encrypted operand whose result is fixed
to an encrypted type: these are the ones where the two differ. -/
theorem tested_by_results (h : op.expand = .ok sigs) (hreq : op.name ≠ "req")
    (hreencrypt : op.name ≠ "reencrypt") :
    op.TestedBy sigs (fun sig => sig.inputs = [sig.result]) ∧
      (op.TestedBy sigs (fun sig => sig.result.encrypted = true) ↔
        ¬(op.params = [.anyEncrypted] ∧
          ∃ t : ValueType, t.encrypted = true ∧ op.result = .exactly t)) := by
  refine ⟨.of_iff_promoted h hreq hreencrypt (forall_inputs_eq_result_iff h), ?_⟩
  constructor
  · rintro hdecision ⟨hone, t, ht, hrule⟩
    have hencrypted := (forall_result_encrypted_iff h hone).2 (.inr ⟨t, ht, hrule⟩)
    have hunary := hdecision.unary.2 ⟨hone, hencrypted⟩
    -- A fixed result is not a promoted one, and there are not three parameters.
    rw [testTemplate?_eq hreq hreencrypt, hone, hrule] at hunary
    exact absurd hunary (by simp)
  · intro hfixed
    refine .of_iff_promoted h hreq hreencrypt ?_
    intro hone
    rw [forall_result_encrypted_iff h hone]
    exact or_iff_left fun hrule => hfixed ⟨hone, hrule⟩

/-- A negation with a promoted result is tested on its one operand, whichever way this is put. -/
theorem tested_by_results_of_negation :
    ∃ sigs, (⟨"neg", [.anyEncrypted], .promoted, false, false⟩ : Operation).expand = .ok sigs ∧
      (⟨"neg", [.anyEncrypted], .promoted, false, false⟩ : Operation).TestedBy sigs
        (fun sig => sig.inputs = [sig.result]) ∧
      (⟨"neg", [.anyEncrypted], .promoted, false, false⟩ : Operation).TestedBy sigs
        (fun sig => sig.result.encrypted = true) := by
  obtain ⟨sigs, hsigs⟩ :
      ∃ sigs, (⟨"neg", [.anyEncrypted], .promoted, false, false⟩ : Operation).expand = .ok sigs :=
    (exists_eq_ok_iff fun _ => expand_eq_error_iff).2 rfl
  obtain ⟨hsame, hencrypted⟩ := tested_by_results hsigs (by decide) (by decide)
  refine ⟨sigs, hsigs, hsame, hencrypted.2 ?_⟩
  rintro ⟨-, t, -, hrule⟩
  exact nomatch hrule

/-- A negation whose result is always an encrypted byte is not tested, although it has overloads and
all of them are from one encrypted operand to an encrypted type. -/
theorem fixed_negation_untested :
    ∃ sigs, (⟨"neg", [.anyEncrypted], .exactly ⟨true, .uint8⟩, false, false⟩ : Operation).expand =
        .ok sigs ∧ sigs ≠ [] ∧
      (∀ sig ∈ sigs, (∃ t : ValueType, t.encrypted = true ∧ sig.inputs = [t]) ∧
        sig.result.encrypted = true) ∧
      (⟨"neg", [.anyEncrypted], .exactly ⟨true, .uint8⟩, false, false⟩ : Operation).testTemplate? =
        none ∧
      ¬(⟨"neg", [.anyEncrypted], .exactly ⟨true, .uint8⟩, false, false⟩ : Operation).TestedBy sigs
        (fun sig => sig.result.encrypted = true) := by
  obtain ⟨sigs, hsigs⟩ :
      ∃ sigs, (⟨"neg", [.anyEncrypted], .exactly ⟨true, .uint8⟩, false, false⟩ :
        Operation).expand = .ok sigs :=
    (exists_eq_ok_iff fun _ => expand_eq_error_iff).2 rfl
  obtain ⟨sig, hsig, -⟩ := exists_resolve_singleton hsigs rfl ⟨true, .uint8⟩ (by decide) rfl
  have hencrypted := (forall_result_encrypted_iff hsigs rfl).2 (.inr ⟨_, rfl, rfl⟩)
  refine ⟨sigs, hsigs, List.ne_nil_of_mem hsig, ?_, by decide, ?_⟩
  · exact fun sig hsig => ⟨exists_inputs_eq_singleton hsigs rfl hsig, hencrypted sig hsig⟩
  · intro hdecision
    exact absurd (hdecision.unary.2 ⟨rfl, hencrypted⟩) (by decide)

end Operation

end FheSolidity
