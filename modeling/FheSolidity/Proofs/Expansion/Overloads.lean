import FheSolidity.Proofs.Expansion.Choices
import FheSolidity.Proofs.Promotion
import FheSolidity.Proofs.Traversal

/-!
# The overloads of an operation

An operation is expanded over any encrypted and plaintext types that it is given, in any order, with
repetitions and even with types of the wrong kind. It has one overload on each combination of
candidates, with the result that its rule finds (`expandIn_eq_ok_iff`). Only extraction fails: it is
refused for several parameters, and for a candidate that is plaintext (`expandIn_eq_error_iff`).
`expandIn_lexicographic` puts the two together, with the order of the overloads and with what the
rules give.
-/

namespace FheSolidity

/-! ## Failures of a rule -/

/-- Extraction from several inputs fails, whatever they are. -/
theorem extractPlaintext_of_two_le {function : String} {inputs : List ValueType}
    (h : 2 ≤ inputs.length) :
    extractPlaintext function inputs = .error (.extractionArity function inputs.length) := by
  match inputs, h with
  | _ :: _ :: _, _ => rfl

/-- A rule fails exactly if it is extraction and that fails. -/
theorem ResultRule.resolve_eq_error_iff {rule : ResultRule} {function : String}
    {inputs : List ValueType} {e : Failure} :
    rule.resolve function inputs = .error e ↔
      rule = .extracted ∧ extractPlaintext function inputs = .error e := by
  cases rule with
  | promoted => exact iff_of_false (nomatch ·) (nomatch ·.1)
  | extracted => exact (and_iff_right rfl).symm
  | exactly t => exact iff_of_false (nomatch ·) (nomatch ·.1)

namespace Parameter

/-- The types that a parameter stands for among given ones if its operation excludes none. -/
def typesIn (encrypted plaintext : List ValueType) : Parameter → List ValueType
  | anyEncrypted => encrypted
  | anyPlaintext => plaintext
  | exactly t => [t]

/-- Whether a type is comparison-only and stands for a parameter that may be any encrypted type. -/
def excludes (param : Parameter) (t : ValueType) : Bool :=
  param == anyEncrypted && t.isComparisonOnly

end Parameter

namespace Operation

/-! ## Single overloads -/

/-- An overload has the name of its operation, the given inputs, and the result that the rule
finds. -/
theorem overload_eq_ok_iff {op : Operation} {inputs : List ValueType} {sig : Signature} :
    op.overload inputs = .ok sig ↔ sig.inputs = inputs ∧ sig.name = op.name ∧
      op.result.resolve op.name sig.inputs = .ok sig.result := by
  unfold overload
  rw [bind_eq_ok_iff]
  constructor
  · intro h
    obtain ⟨t, ht, h⟩ := h
    rw [← Except.ok.inj h]
    exact ⟨rfl, rfl, ht⟩
  · intro h
    obtain ⟨name, inputs', t⟩ := sig
    obtain ⟨rfl, rfl, ht⟩ := h
    exact ⟨t, ht, rfl⟩

/-- There is no overload on some inputs exactly if the rule finds no result. -/
theorem overload_eq_error_iff {op : Operation} {inputs : List ValueType} {e : Failure} :
    op.overload inputs = .error e ↔
      op.result = .extracted ∧ extractPlaintext op.name inputs = .error e := by
  rw [← ResultRule.resolve_eq_error_iff]
  unfold overload
  rw [bind_eq_error_iff]
  constructor
  · intro h
    rcases h with h | ⟨t, -, h⟩
    · exact h
    · exact nomatch h
  · exact .inl

/-- Extraction has no overload on a single input exactly if that is plaintext. -/
theorem overload_singleton_eq_error_iff {op : Operation} (h : op.result = .extracted)
    {t : ValueType} {e : Failure} :
    op.overload [t] = .error e ↔ t.encrypted = false ∧ .extractionInput op.name t = e := by
  rw [overload_eq_error_iff, and_iff_right h]
  show (if t.encrypted = true then Except.ok t.toPlaintext else .error _) = .error e ↔ _
  cases t.encrypted with
  | true => exact iff_of_false (nomatch ·) (nomatch ·.1)
  | false => rw [if_neg Bool.false_ne_true, Except.error.injEq, and_iff_right rfl]

/-! ## Candidates -/

variable {op : Operation} {encrypted plaintext : List ValueType}

/-- The number of candidate lists is the number of parameters. -/
theorem length_candidatesIn (op : Operation) (encrypted plaintext : List ValueType) :
    (op.candidatesIn encrypted plaintext).length = op.arity := by
  rw [candidatesIn, List.length_map, arity]

/-- With two parameters the flag of the operation decides whether comparison-only types are
excluded. -/
theorem excludesComparisonOnly_of_arity_eq_two (h : op.arity = 2) :
    op.excludesComparisonOnly = !op.booleanMath := by
  rw [excludesComparisonOnly, h]
  rfl

/-- With another number of parameters they never are. -/
theorem excludesComparisonOnly_of_arity_ne_two (h : op.arity ≠ 2) :
    op.excludesComparisonOnly = false := by
  rw [excludesComparisonOnly, beq_eq_false_iff_ne.2 h, Bool.false_and]

/-- The candidates are the types that the parameters stand for, less those that are excluded. -/
theorem candidatesIn_eq_map_filter (op : Operation) (encrypted plaintext : List ValueType) :
    op.candidatesIn encrypted plaintext = op.params.map fun param =>
      (param.typesIn encrypted plaintext).filter fun t =>
        !(op.excludesComparisonOnly && param.excludes t) := by
  unfold candidatesIn
  apply List.map_congr_left
  intro param _
  cases param with
  | anyEncrypted => rfl
  | anyPlaintext =>
    have hnone : ∀ t, Parameter.anyPlaintext.excludes t = false := fun _ => rfl
    simp only [Parameter.typesIn, hnone, Bool.and_false, Bool.not_false, List.filter_true]
  | exactly u =>
    have hnone : ∀ t, (Parameter.exactly u).excludes t = false := fun _ => rfl
    simp only [Parameter.typesIn, hnone, Bool.and_false, Bool.not_false, List.filter_true]

/-- An operation with parameters has candidate lists. -/
theorem candidatesIn_ne_nil (h : op.params ≠ []) : op.candidatesIn encrypted plaintext ≠ [] :=
  fun hnil => h (List.map_eq_nil_iff.1 hnil)

/-- Types without repetitions give candidates without repetitions. -/
theorem nodup_of_mem_candidatesIn (hencrypted : encrypted.Nodup) (hplaintext : plaintext.Nodup) :
    ∀ list ∈ op.candidatesIn encrypted plaintext, list.Nodup := by
  intro list hlist
  obtain ⟨param, -, rfl⟩ := List.mem_map.1 hlist
  cases param with
  | anyEncrypted => exact hencrypted.filter _
  | anyPlaintext => exact hplaintext
  | exactly t => exact List.nodup_singleton t

/-- Every combination of candidates has one type for each parameter. -/
theorem length_of_mem_combinations {row : List ValueType}
    (h : row ∈ combinations (op.candidatesIn encrypted plaintext)) : row.length = op.arity := by
  obtain ⟨-, hrow⟩ := mem_combinations_iff.1 h
  rw [hrow.length_eq, length_candidatesIn]

/-! ## Expansions that succeed -/

/-- An expansion has one overload on each combination of candidates, with the name of the operation
and the result that the rule finds. -/
theorem expandIn_eq_ok_iff {sigs : List Signature} :
    op.expandIn encrypted plaintext = .ok sigs ↔
      sigs.map Signature.inputs = combinations (op.candidatesIn encrypted plaintext) ∧
        ∀ sig ∈ sigs, sig.name = op.name ∧
          op.result.resolve op.name sig.inputs = .ok sig.result := by
  unfold expandIn
  rw [mapM_eq_ok_iff]
  simp only [overload_eq_ok_iff]
  generalize combinations (op.candidatesIn encrypted plaintext) = rows
  constructor
  · intro h
    -- Every row has been turned into the overload at its place.
    induction h with
    | nil => exact ⟨rfl, List.forall_mem_nil _⟩
    | cons hsig _ ih =>
      obtain ⟨rfl, hname, hresult⟩ := hsig
      exact ⟨congrArg _ ih.1, List.forall_mem_cons.2 ⟨⟨hname, hresult⟩, ih.2⟩⟩
  · intro h
    obtain ⟨rfl, hsigs⟩ := h
    rw [List.forall₂_map_left_iff, List.forall₂_same]
    intro sig hsig
    exact ⟨rfl, hsigs sig hsig⟩

/-- Every overload over some types has the name of the operation, a candidate of each parameter, and
the result that the rule finds for these. -/
theorem mem_expandIn {sigs : List Signature} (h : op.expandIn encrypted plaintext = .ok sigs) :
    ∀ sig ∈ sigs, sig.name = op.name ∧
      List.Forall₂ (· ∈ ·) sig.inputs (op.candidatesIn encrypted plaintext) ∧
      op.result.resolve op.name sig.inputs = .ok sig.result := by
  obtain ⟨hinputs, hsigs⟩ := expandIn_eq_ok_iff.1 h
  intro sig hsig
  obtain ⟨hname, hresult⟩ := hsigs sig hsig
  have hmem : sig.inputs ∈ sigs.map Signature.inputs := List.mem_map_of_mem hsig
  rw [hinputs, mem_combinations_iff] at hmem
  exact ⟨hname, hmem.2, hresult⟩

/-- Every overload has as many inputs as the operation has parameters. -/
theorem arity_of_mem_expandIn {sigs : List Signature}
    (h : op.expandIn encrypted plaintext = .ok sigs) {sig : Signature} (hsig : sig ∈ sigs) :
    sig.arity = op.arity := by
  obtain ⟨-, hinputs, -⟩ := mem_expandIn h sig hsig
  rw [Signature.arity, hinputs.length_eq, length_candidatesIn]

/-- Without parameters, or without candidates for one of them, an operation has no overloads. -/
theorem expandIn_of_combinations_eq_nil
    (h : op.params = [] ∨ [] ∈ op.candidatesIn encrypted plaintext) :
    op.expandIn encrypted plaintext = .ok [] := by
  have hnone : combinations (op.candidatesIn encrypted plaintext) = [] := by
    rw [combinations_eq_nil_iff]
    exact h.imp_left List.map_eq_nil_iff.2
  rw [expandIn_eq_ok_iff, hnone]
  exact ⟨rfl, List.forall_mem_nil _⟩

/-- Types without repetitions give overloads of which no two have the same inputs. -/
theorem nodup_inputs_of_expandIn (hencrypted : encrypted.Nodup) (hplaintext : plaintext.Nodup)
    {sigs : List Signature} (h : op.expandIn encrypted plaintext = .ok sigs) :
    (sigs.map Signature.inputs).Nodup := by
  rw [(expandIn_eq_ok_iff.1 h).1]
  exact nodup_combinations (nodup_of_mem_candidatesIn hencrypted hplaintext)

/-! ## Expansions that fail -/

/-- Why an operation cannot be expanded over some types: plaintext is to be extracted from several
inputs, or from one that may be plaintext, and then the first such candidate is to blame. -/
inductive ExtractionFault (op : Operation) (encrypted plaintext : List ValueType) : Failure → Prop
  /-- There are several parameters. -/
  | arity (rule : op.result = .extracted) (several : 1 < op.arity) :
    ExtractionFault op encrypted plaintext (.extractionArity op.name op.arity)
  /-- There is one parameter, with a candidate that is plaintext. -/
  | input {before after : List ValueType} {t : ValueType} (rule : op.result = .extracted)
    (candidates : op.candidatesIn encrypted plaintext = [before ++ t :: after])
    (earlier : ∀ u ∈ before, u.encrypted = true) (plain : t.encrypted = false) :
    ExtractionFault op encrypted plaintext (.extractionInput op.name t)

/-- The candidates of a single parameter, one by one, are the combinations. -/
theorem combinations_of_candidatesIn_eq_singleton {list : List ValueType}
    (h : op.candidatesIn encrypted plaintext = [list]) :
    combinations (op.candidatesIn encrypted plaintext) = list.map fun t => [t] := by
  rw [h, combinations_of_ne_nil (List.cons_ne_nil _ _), choices_singleton]

/-- An expansion fails for no other reason than a fault of extraction. -/
theorem extractionFault_of_expandIn_eq_error (hparams : op.params ≠ []) {e : Failure}
    (h : op.expandIn encrypted plaintext = .error e) :
    op.ExtractionFault encrypted plaintext e := by
  obtain ⟨before, row, after, hrows, hbefore, hrow⟩ := mapM_eq_error_iff.1 h
  obtain ⟨hrule, hextract⟩ := overload_eq_error_iff.1 hrow
  have hmem : row ∈ combinations (op.candidatesIn encrypted plaintext) := by
    rw [hrows]
    exact List.mem_append_right _ List.mem_cons_self
  have hlength : row.length = op.arity := length_of_mem_combinations hmem
  have hpos : 0 < op.arity := List.length_pos_of_ne_nil hparams
  by_cases hseveral : 1 < op.arity
  · rw [extractPlaintext_of_two_le (by omega), hlength, Except.error.injEq] at hextract
    rw [← hextract]
    exact .arity hrule hseveral
  · obtain ⟨list, hlist⟩ : ∃ list, op.candidatesIn encrypted plaintext = [list] := by
      rw [← List.length_eq_one_iff, length_candidatesIn]
      omega
    rw [combinations_of_candidatesIn_eq_singleton hlist, List.map_eq_append_iff] at hrows
    obtain ⟨front, back, rfl, rfl, hback⟩ := hrows
    obtain ⟨t, rest, rfl, rfl, -⟩ := List.map_eq_cons_iff.1 hback
    obtain ⟨hplain, rfl⟩ := (overload_singleton_eq_error_iff hrule).1 hrow
    refine .input hrule hlist ?_ hplain
    -- The candidates before the one to blame have overloads, so they are encrypted.
    intro u hu
    obtain ⟨sig, hsig⟩ := hbefore [u] (List.mem_map_of_mem hu)
    by_contra hplain
    rw [Bool.not_eq_true] at hplain
    rw [(overload_singleton_eq_error_iff hrule).2 ⟨hplain, rfl⟩] at hsig
    exact nomatch hsig

/-- A fault of extraction is the failure of the expansion, if every parameter has a candidate. -/
theorem expandIn_of_extractionFault (hparams : op.params ≠ [])
    (hcandidates : [] ∉ op.candidatesIn encrypted plaintext) {e : Failure}
    (h : op.ExtractionFault encrypted plaintext e) :
    op.expandIn encrypted plaintext = .error e := by
  unfold expandIn
  cases h with
  | arity hrule hseveral =>
    -- The first combination is refused already, since it has as many types.
    have hne : combinations (op.candidatesIn encrypted plaintext) ≠ [] := by
      rw [ne_eq, combinations_eq_nil_iff, not_or]
      exact ⟨candidatesIn_ne_nil hparams, hcandidates⟩
    obtain ⟨row, rows, hrows⟩ := List.exists_cons_of_ne_nil hne
    have hmem : row ∈ combinations (op.candidatesIn encrypted plaintext) := by
      rw [hrows]
      exact List.mem_cons_self
    have hlength : row.length = op.arity := length_of_mem_combinations hmem
    rw [hrows]
    apply mapM_cons_of_error
    rw [overload_eq_error_iff, extractPlaintext_of_two_le (by omega), hlength]
    exact ⟨hrule, rfl⟩
  | @input before after t hrule hlist hbefore hplain =>
    rw [combinations_of_candidatesIn_eq_singleton hlist, List.map_append, List.map_cons,
      mapM_eq_error_iff]
    refine ⟨_, _, _, rfl, ?_, (overload_singleton_eq_error_iff hrule).2 ⟨hplain, rfl⟩⟩
    -- The candidates in front are encrypted, so that none of them is refused.
    intro row hrow
    obtain ⟨u, hu, rfl⟩ := List.mem_map.1 hrow
    cases hoverload : op.overload [u] with
    | ok sig => exact ⟨sig, rfl⟩
    | error e =>
      rw [overload_singleton_eq_error_iff hrule, hbefore u hu] at hoverload
      exact nomatch hoverload.1

/-- With a candidate for every parameter, of which there is at least one, an expansion fails exactly
for a fault of extraction. -/
theorem expandIn_eq_error_iff (hparams : op.params ≠ [])
    (hcandidates : [] ∉ op.candidatesIn encrypted plaintext) {e : Failure} :
    op.expandIn encrypted plaintext = .error e ↔ op.ExtractionFault encrypted plaintext e :=
  ⟨extractionFault_of_expandIn_eq_error hparams, expandIn_of_extractionFault hparams hcandidates⟩

/-- There is a fault of extraction exactly if the rule is extraction and there are several
parameters or a plaintext candidate of the only one. -/
theorem exists_extractionFault_iff :
    (∃ e, op.ExtractionFault encrypted plaintext e) ↔
      op.result = .extracted ∧ (1 < op.arity ∨ ∃ list,
        op.candidatesIn encrypted plaintext = [list] ∧ ∃ t ∈ list, t.encrypted = false) := by
  constructor
  · intro h
    obtain ⟨e, h⟩ := h
    cases h with
    | arity hrule hseveral => exact ⟨hrule, .inl hseveral⟩
    | input hrule hlist _ hplain =>
      refine ⟨hrule, .inr ⟨_, hlist, _, ?_, hplain⟩⟩
      exact List.mem_append_right _ List.mem_cons_self
  · intro h
    obtain ⟨hrule, hseveral | ⟨list, hlist, t, ht, hplain⟩⟩ := h
    · exact ⟨_, .arity hrule hseveral⟩
    · -- The first plaintext candidate is to blame.
      have hfound : (list.find? fun u => !u.encrypted).isSome = true := by
        rw [List.find?_isSome]
        exact ⟨t, ht, by rw [hplain]; rfl⟩
      obtain ⟨first, hfirst⟩ := Option.isSome_iff_exists.1 hfound
      obtain ⟨hplain, before, after, rfl, hbefore⟩ := List.find?_eq_some_iff_append.1 hfirst
      rw [Bool.not_eq_true'] at hplain
      refine ⟨_, .input hrule hlist ?_ hplain⟩
      intro u hu
      simpa using hbefore u hu

/-! ## The overloads in their order -/

/-- What an expansion over any types comes to. Without parameters, or without candidates for one of
them, there are no overloads. Otherwise a fault of extraction decides; and without one there is an
overload on each choice of candidates, in lexicographic order, with the type that the rule gives. No
two have the same inputs if no type is listed twice. -/
theorem expandIn_lexicographic (op : Operation) (encrypted plaintext : List ValueType) :
    (op.params = [] ∨ [] ∈ op.candidatesIn encrypted plaintext →
      op.expandIn encrypted plaintext = .ok []) ∧
    (op.params ≠ [] → [] ∉ op.candidatesIn encrypted plaintext →
      (∀ e, op.expandIn encrypted plaintext = .error e ↔
        op.ExtractionFault encrypted plaintext e) ∧
      ((∃ e, op.expandIn encrypted plaintext = .error e) ↔
        op.result = .extracted ∧ (1 < op.arity ∨ ∃ list,
          op.candidatesIn encrypted plaintext = [list] ∧ ∃ t ∈ list, t.encrypted = false)) ∧
      ((∀ e, ¬op.ExtractionFault encrypted plaintext e) →
        ∃ sigs, op.expandIn encrypted plaintext = .ok sigs ∧
          Lexicographic (op.candidatesIn encrypted plaintext) (sigs.map Signature.inputs) ∧
          ∀ sig ∈ sigs, sig.name = op.name ∧ op.result.Gives sig.inputs sig.result)) ∧
    (encrypted.Nodup → plaintext.Nodup → ∀ sigs, op.expandIn encrypted plaintext = .ok sigs →
      (sigs.map Signature.inputs).Nodup) := by
  refine ⟨expandIn_of_combinations_eq_nil, ?_, ?_⟩
  · intro hparams hcandidates
    have herror := fun e => expandIn_eq_error_iff hparams hcandidates (e := e)
    refine ⟨herror, ?_, ?_⟩
    · simp only [herror]
      exact exists_extractionFault_iff
    · intro hfault
      cases h : op.expandIn encrypted plaintext with
      | error e => exact absurd ((herror e).1 h) (hfault e)
      | ok sigs =>
        obtain ⟨hinputs, hsigs⟩ := expandIn_eq_ok_iff.1 h
        refine ⟨sigs, rfl, ?_, ?_⟩
        · rw [hinputs, combinations_of_ne_nil (candidatesIn_ne_nil hparams)]
          exact lexicographic_choices _
        · intro sig hsig
          obtain ⟨hname, hresult⟩ := hsigs sig hsig
          have hne : sig.inputs ≠ [] := by
            apply List.ne_nil_of_length_pos
            rw [show sig.inputs.length = op.arity from arity_of_mem_expandIn h hsig]
            exact List.length_pos_of_ne_nil hparams
          exact ⟨hname, (ResultRule.resolve_eq_ok_iff hne).1 hresult⟩
  · intro hencrypted hplaintext sigs h
    exact nodup_inputs_of_expandIn hencrypted hplaintext h

/-- Addition over three encrypted types has four overloads, since truth values are not added.
Decryption of plaintext is refused for the first type that is plaintext, and an operation without
parameters has no overloads. -/
theorem expandIn_lexicographic_of_three_types :
    (∃ sigs, (⟨"add", [.anyEncrypted, .anyEncrypted], .promoted, false, false⟩ : Operation).expandIn
        [.ebool, ⟨true, .uint8⟩, ⟨true, .uint16⟩] [] = .ok sigs ∧
      sigs.map Signature.inputs = [[⟨true, .uint8⟩, ⟨true, .uint8⟩],
        [⟨true, .uint8⟩, ⟨true, .uint16⟩], [⟨true, .uint16⟩, ⟨true, .uint8⟩],
        [⟨true, .uint16⟩, ⟨true, .uint16⟩]] ∧
      Lexicographic [[⟨true, .uint8⟩, ⟨true, .uint16⟩], [⟨true, .uint8⟩, ⟨true, .uint16⟩]]
        (sigs.map Signature.inputs) ∧
      (∀ sig ∈ sigs, sig.name = "add" ∧ ResultRule.promoted.Gives sig.inputs sig.result) ∧
      (sigs.map Signature.inputs).Nodup) ∧
    (⟨"decrypt", [.anyPlaintext], .extracted, false, false⟩ : Operation).expandIn []
      [.ebool, .bool] = .error (.extractionInput "decrypt" .bool) ∧
    (⟨"nothing", [], .extracted, false, false⟩ : Operation).expandIn [.ebool] [] = .ok [] := by
  refine ⟨?_, ?_, ?_⟩
  · obtain ⟨-, hadd, hnodup⟩ := expandIn_lexicographic
      ⟨"add", [.anyEncrypted, .anyEncrypted], .promoted, false, false⟩
      [.ebool, ⟨true, .uint8⟩, ⟨true, .uint16⟩] []
    have hfault : ∀ e, ¬(⟨"add", [.anyEncrypted, .anyEncrypted], .promoted, false, false⟩ :
        Operation).ExtractionFault [.ebool, ⟨true, .uint8⟩, ⟨true, .uint16⟩] [] e :=
      not_exists.1 fun h => nomatch (exists_extractionFault_iff.1 h).1
    obtain ⟨sigs, hsigs, horder, hresults⟩ := (hadd (by decide) (by decide)).2.2 hfault
    refine ⟨sigs, hsigs, ?_, horder, hresults, hnodup (by decide) (by decide) sigs hsigs⟩
    rw [(expandIn_eq_ok_iff.1 hsigs).1]
    decide
  · apply (((expandIn_lexicographic _ _ _).2.1 (by decide) (by decide)).1 _).2
    exact @ExtractionFault.input _ _ _ [.ebool] [] .bool rfl rfl (by decide) rfl
  · exact (expandIn_lexicographic _ _ _).1 (.inl rfl)

end Operation

end FheSolidity
