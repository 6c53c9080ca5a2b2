import FheSolidity.Proofs.Expansion
import FheSolidity.Proofs.Generation.Keys
import FheSolidity.Proofs.Solidity.Library

/-!
# What generation comes to

Whether generation succeeds, and how it fails, can be read off the descriptions of the operations.
The faults of extraction come first, over all operations, then the operations with too many
parameters, and last the keys of the test contracts (`outcome_generate_eq_error_iff`). Each of the
three stages of generation brings in one of the three: `expandAll_eq_error_iff`,
`libraryText_expandAll_eq_error_iff` and `checkKeys_testContracts_eq_error_iff`. The second needs
that an operation with too many parameters has an overload at all, so that there is a function that
cannot be written.
-/

namespace FheSolidity

/-! ## Expansion -/

/-- Expanding some operations fails as the first one whose description is at fault. -/
theorem expandAll_eq_error_iff {ops : List Operation} {e : Failure} :
    expandAll ops = .error e ↔ ops.findSome? Operation.extractionFault? = some e := by
  have hfamilies : expandAll ops = .error e ↔ ops.mapM Operation.expand = .error e := by
    unfold expandAll
    rw [bind_eq_error_iff]
    constructor
    · intro h
      rcases h with h | ⟨families, -, h⟩
      · exact h
      · exact nomatch h
    · exact .inl
  have hnone : ∀ op : Operation, (∃ sigs, op.expand = .ok sigs) ↔ op.extractionFault? = none :=
    fun op => exists_eq_ok_iff fun _ => Operation.expand_eq_error_iff
  rw [hfamilies, mapM_eq_error_iff, List.findSome?_eq_some_iff]
  simp only [hnone, Operation.expand_eq_error_iff]
  constructor
  · intro h
    obtain ⟨before, op, after, hops, hbefore, hop⟩ := h
    exact ⟨before, op, after, hops, hop, hbefore⟩
  · intro h
    obtain ⟨before, op, after, hops, hop, hbefore⟩ := h
    exact ⟨before, op, after, hops, hbefore, hop⟩

/-! ## Functions -/

/-- Why no function can be written for an operation, read off its description: it has more than
three parameters. -/
def Operation.arityFault? (op : Operation) : Option Failure :=
  if 4 ≤ op.arity then some (.unsupportedArity op.name op.arity) else none

/-- Functions can be written for all overloads of an operation with at most three parameters. -/
theorem exists_functionTexts {op : Operation} (hfault : op.arityFault? = none)
    {sigs : List Signature} (h : op.expand = .ok sigs) :
    ∃ texts, sigs.mapM Signature.functionText = .ok texts := by
  have hle : op.arity ≤ 3 := by
    unfold Operation.arityFault? at hfault
    rw [ite_eq_right_iff] at hfault
    by_contra hlt
    exact absurd (hfault (by omega)) (Option.some_ne_none _)
  by_cases hparams : op.params = []
  · have hnone : op.expand = .ok [] := Operation.expandIn_of_combinations_eq_nil (.inl hparams)
    rw [h, Except.ok.injEq] at hnone
    exact ⟨[], by rw [hnone]; rfl⟩
  · -- All overloads have the number of inputs that the operation has parameters.
    have hpos : 1 ≤ op.arity := List.length_pos_of_ne_nil hparams
    apply exists_mapM_eq_ok_iff.2
    intro sig hsig
    have harity := Operation.arity_of_mem_expandIn h hsig
    exact Signature.exists_functionText_iff.2 ⟨by omega, by omega⟩

/-- No function can be written for the first overload of an operation with more than three
parameters, which there is. -/
theorem functionTexts_of_arityFault {op : Operation} {e : Failure}
    (hfault : op.arityFault? = some e) {sigs : List Signature} (h : op.expand = .ok sigs) :
    sigs.mapM Signature.functionText = .error e := by
  unfold Operation.arityFault? at hfault
  rw [Option.ite_none_right_eq_some, Option.some.injEq] at hfault
  obtain ⟨hlt, rfl⟩ := hfault
  have hparams : op.params ≠ [] := by
    intro hnil
    rw [Operation.arity, hnil, List.length_nil] at hlt
    omega
  obtain ⟨sig, others, rfl⟩ := List.exists_cons_of_ne_nil (Operation.expand_ne_nil hparams h)
  have harity := Operation.arity_of_mem_expandIn h List.mem_cons_self
  obtain ⟨hname, -, -⟩ := Operation.mem_expandIn h sig List.mem_cons_self
  apply mapM_cons_of_error
  rw [Signature.functionText_eq_error (by omega), harity, hname]

/-- The functions of several families fail to be written as those of the first operation with more
than three parameters. -/
theorem functionTexts_flatten_eq_error_iff {ops : List Operation} {families : List (List Signature)}
    (h : List.Forall₂ (fun op sigs => op.expand = .ok sigs) ops families) {e : Failure} :
    families.flatten.mapM Signature.functionText = .error e ↔
      ops.findSome? Operation.arityFault? = some e := by
  induction h with
  | nil =>
    constructor
    · intro h
      exact nomatch h
    · intro h
      exact nomatch h
  | @cons op sigs ops families hop _ ih =>
    rw [List.flatten_cons, List.mapM_append, bind_eq_error_iff, List.findSome?_cons]
    cases hfault : op.arityFault? with
    | none =>
      -- This family is written, so the others decide.
      obtain ⟨texts, htexts⟩ := exists_functionTexts hfault hop
      rw [← ih, htexts]
      constructor
      · intro h
        rcases h with h | ⟨_, -, h⟩
        · exact nomatch h
        · rcases bind_eq_error_iff.1 h with h | ⟨_, -, h⟩
          · exact h
          · exact nomatch h
      · intro h
        exact .inr ⟨texts, rfl, bind_eq_error_iff.2 (.inl h)⟩
    | some e' =>
      rw [functionTexts_of_arityFault hfault hop]
      constructor
      · intro h
        rcases h with h | ⟨_, h, -⟩
        · rw [Except.error.inj h]
        · exact nomatch h
      · intro h
        rw [Option.some.inj h]
        exact .inl rfl

/-- The library for the overloads of some operations fails to be written as the first operation with
more than three parameters. -/
theorem libraryText_expandAll_eq_error_iff {ops : List Operation} {sigs : List Signature}
    (h : expandAll ops = .ok sigs) {e : Failure} :
    libraryText sigs = .error e ↔ ops.findSome? Operation.arityFault? = some e := by
  unfold expandAll at h
  obtain ⟨families, hfamilies, hsigs⟩ := bind_eq_ok_iff.1 h
  rw [libraryText_eq_error_iff, ← Except.ok.inj hsigs]
  exact functionTexts_flatten_eq_error_iff (mapM_eq_ok_iff.1 hfamilies)

/-! ## The verdict -/

/-- Generation fails as the first operation with a fault of extraction, otherwise as the first with
too many parameters, and otherwise for the first key that repeats an earlier one. -/
theorem outcome_generate_eq_error_iff {ops : List Operation} {e : Failure} :
    (generate ops).outcome = .error e ↔
      ops.findSome? Operation.extractionFault? = some e ∨
        ops.findSome? Operation.extractionFault? = none ∧
          (ops.findSome? Operation.arityFault? = some e ∨
            ops.findSome? Operation.arityFault? = none ∧
              ∃ key, FirstRepeat key (testKeys ops) ∧ e = .duplicateContract key) := by
  rw [outcome_generate_eq, bind_eq_error_iff, expandAll_eq_error_iff]
  cases hsigs : expandAll ops with
  | error e' =>
    rw [expandAll_eq_error_iff.1 hsigs]
    simp
  | ok sigs =>
    have hextraction : ops.findSome? Operation.extractionFault? = none :=
      (exists_eq_ok_iff fun _ => expandAll_eq_error_iff).1 ⟨sigs, hsigs⟩
    simp only [Except.ok.injEq, exists_eq_left', hextraction, true_and, bind_eq_error_iff,
      libraryText_expandAll_eq_error_iff hsigs]
    cases hlibrary : libraryText sigs with
    | error e' =>
      rw [(libraryText_expandAll_eq_error_iff hsigs).1 hlibrary]
      simp
    | ok library =>
      have harity : ops.findSome? Operation.arityFault? = none :=
        (exists_eq_ok_iff fun _ => libraryText_expandAll_eq_error_iff hsigs).1 ⟨library, hlibrary⟩
      simp only [Except.ok.injEq, exists_eq_left', harity, true_and,
        checkKeys_testContracts_eq_error_iff]
      simp [pure, Except.pure]

/-- Generation succeeds exactly if no operation is at fault and no two test contracts have the same
key. -/
theorem exists_outcome_generate_iff {ops : List Operation} :
    (∃ a, (generate ops).outcome = .ok a) ↔ ops.findSome? Operation.extractionFault? = none ∧
      ops.findSome? Operation.arityFault? = none ∧ (testKeys ops).Nodup := by
  constructor
  · intro h
    obtain ⟨a, ha⟩ := h
    have hne : ∀ e, (generate ops).outcome ≠ .error e := by
      intro e he
      rw [ha] at he
      exact nomatch he
    simp only [ne_eq, outcome_generate_eq_error_iff, not_or, not_and] at hne
    have hextraction : ops.findSome? Operation.extractionFault? = none :=
      Option.eq_none_iff_forall_ne_some.2 fun e => (hne e).1
    have harity : ops.findSome? Operation.arityFault? = none :=
      Option.eq_none_iff_forall_ne_some.2 fun e => ((hne e).2 hextraction).1
    refine ⟨hextraction, harity, ?_⟩
    by_contra hrepeat
    obtain ⟨key, hkey⟩ := exists_firstRepeat_iff.2 hrepeat
    exact ((hne (.duplicateContract key)).2 hextraction).2 harity ⟨key, hkey, rfl⟩
  · intro h
    obtain ⟨hextraction, harity, hnodup⟩ := h
    cases houtcome : (generate ops).outcome with
    | ok a => exact ⟨a, rfl⟩
    | error e =>
      rw [outcome_generate_eq_error_iff, hextraction, harity] at houtcome
      rcases houtcome with h | ⟨-, h | ⟨-, key, hkey, -⟩⟩
      · exact nomatch h
      · exact nomatch h
      · exact absurd hnodup (exists_firstRepeat_iff.1 ⟨key, hkey⟩)

/-- An operation without parameters has no fault. -/
theorem faults_of_params_eq_nil {op : Operation} (h : op.params = []) :
    op.extractionFault? = none ∧ op.arityFault? = none := by
  unfold Operation.extractionFault? Operation.arityFault? Operation.arity
  rw [h]
  constructor
  · cases op.result <;> rfl
  · rfl

/-- How generation ends, read off the operations. A fault of extraction decides before a number of
parameters, and both before a repeated key; without any of them generation succeeds. No symbol is
ever attached to a plaintext type, and an operation without parameters brings in no failure but that
of a repeated key. -/
theorem outcome_generate (ops : List Operation) :
    (∀ e, ops.findSome? Operation.extractionFault? = some e → (generate ops).outcome = .error e) ∧
    (ops.findSome? Operation.extractionFault? = none →
      (∀ e, ops.findSome? Operation.arityFault? = some e → (generate ops).outcome = .error e) ∧
      (ops.findSome? Operation.arityFault? = none →
        (¬(testKeys ops).Nodup → ∃ key, FirstRepeat key (testKeys ops) ∧
          (generate ops).outcome = .error (.duplicateContract key)) ∧
        ((testKeys ops).Nodup → ∃ a, (generate ops).outcome = .ok a))) ∧
    (∀ operation t, (generate ops).outcome ≠ .error (.plaintextOperator operation t)) ∧
    (∀ before op after e, ops = before ++ op :: after → op.params = [] →
      (∀ key, e ≠ .duplicateContract key) →
      ((generate ops).outcome = .error e ↔ (generate (before ++ after)).outcome = .error e)) := by
  refine ⟨?_, ?_, ?_, ?_⟩
  · intro e he
    exact outcome_generate_eq_error_iff.2 (.inl he)
  · intro hextraction
    refine ⟨?_, ?_⟩
    · intro e he
      exact outcome_generate_eq_error_iff.2 (.inr ⟨hextraction, .inl he⟩)
    · intro harity
      refine ⟨?_, ?_⟩
      · intro hrepeat
        obtain ⟨key, hkey⟩ := exists_firstRepeat_iff.2 hrepeat
        exact ⟨key, hkey, outcome_generate_eq_error_iff.2
          (.inr ⟨hextraction, .inr ⟨harity, key, hkey, rfl⟩⟩)⟩
      · intro hnodup
        cases houtcome : (generate ops).outcome with
        | ok a => exact ⟨a, rfl⟩
        | error e =>
          rcases outcome_generate_eq_error_iff.1 houtcome with h | ⟨-, h | ⟨-, key, hkey, rfl⟩⟩
          · rw [hextraction] at h
            exact nomatch h
          · rw [harity] at h
            exact nomatch h
          · exact absurd hnodup (exists_firstRepeat_iff.1 ⟨key, hkey⟩)
  · intro operation t h
    rcases outcome_generate_eq_error_iff.1 h with h | ⟨-, h | ⟨-, key, -, h⟩⟩
    · obtain ⟨op, -, hop⟩ := List.exists_of_findSome?_eq_some h
      exact Operation.extractionFault?_ne_plaintextOperator op operation t hop
    · obtain ⟨op, -, hop⟩ := List.exists_of_findSome?_eq_some h
      unfold Operation.arityFault? at hop
      rw [Option.ite_none_right_eq_some] at hop
      exact nomatch hop.2
    · exact nomatch h
  · intro before op after e hops hparams he
    obtain ⟨hextraction, harity⟩ := faults_of_params_eq_nil hparams
    have hskip : ∀ fault? : Operation → Option Failure, fault? op = none →
        ops.findSome? fault? = (before ++ after).findSome? fault? := by
      intro fault? hnone
      rw [hops, List.findSome?_append, List.findSome?_cons, hnone, List.findSome?_append]
    have hkeys : ∀ ops', ¬∃ key, FirstRepeat key (testKeys ops') ∧ e = .duplicateContract key := by
      intro ops' h
      obtain ⟨key, -, hkey⟩ := h
      exact he key hkey
    rw [outcome_generate_eq_error_iff, outcome_generate_eq_error_iff, hskip _ hextraction,
      hskip _ harity]
    simp only [hkeys, and_false, or_false]

/-- Extraction from plaintext is refused before a fourth parameter is, and both before a second
contract for a conversion. An operation without parameters changes none of this. -/
theorem outcome_generate_mixed_operations :
    (generate [⟨"asEbool", [.anyEncrypted, .anyEncrypted, .anyEncrypted, .anyEncrypted], .promoted,
        false, false⟩, ⟨"decrypt", [.anyPlaintext], .extracted, false, false⟩]).outcome =
      .error (.extractionInput "decrypt" .bool) ∧
    (generate [⟨"add", [.anyEncrypted, .anyEncrypted, .anyEncrypted, .anyEncrypted], .promoted,
        false, false⟩, ⟨"asEbool", [.anyEncrypted], .promoted, false, false⟩]).outcome =
      .error (.unsupportedArity "add" 4) ∧
    (∃ key, FirstRepeat key
        (testKeys [⟨"asEbool", [.anyEncrypted, .anyEncrypted], .promoted, false, false⟩]) ∧
      (generate [⟨"asEbool", [.anyEncrypted, .anyEncrypted], .promoted, false, false⟩]).outcome =
        .error (.duplicateContract key)) ∧
    (∃ a, (generate [⟨"decrypt", [.anyEncrypted], .extracted, false, false⟩]).outcome = .ok a) ∧
    (generate [⟨"nothing", [], .extracted, false, false⟩]).outcome ≠
      .error (.extractionArity "nothing" 0) := by
  refine ⟨?_, ?_, ?_, ?_, ?_⟩
  · exact (outcome_generate _).1 _ (by decide)
  · exact ((outcome_generate _).2.1 (by decide)).1 _ (by decide)
  · exact (((outcome_generate _).2.1 (by decide)).2 (by decide)).1 (by decide +kernel)
  · exact (((outcome_generate _).2.1 (by decide)).2 (by decide)).2 (by decide +kernel)
  · intro h
    have hempty := ((outcome_generate _).2.2.2 [] _ [] _ rfl rfl (by simp)).1 h
    obtain ⟨a, ha⟩ := (((outcome_generate []).2.1 (by decide)).2 (by decide)).2 (by decide +kernel)
    rw [List.append_nil, ha] at hempty
    exact nomatch hempty

end FheSolidity
