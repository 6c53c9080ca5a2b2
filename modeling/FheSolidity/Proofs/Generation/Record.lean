import FheSolidity.Proofs.Generation.Verdict

/-!
# The record of generation

What a generation that succeeds records can be told from the descriptions of the operations: each is
recorded with the number of its overloads, and before that with a warning if no test fits it
(`events_generate`). So no operation is passed over in silence. It has a test contract, or a
warning, or is the decryption that all tests exercise (`length_testContracts_add`), and the numbers
in the record add up to that of the functions in the library.
-/

namespace FheSolidity

/-! ## Events of computations that succeed -/

namespace Traced

variable {α β ε : Type}

/-- A computation that goes on from a success records the events of both parts. -/
theorem events_bind {first : Traced ε α} {next : α → Traced ε β} {a : α}
    (h : first.outcome = .ok a) : (first >>= next).events = first.events ++ (next a).events := by
  obtain ⟨events, outcome⟩ := first
  obtain rfl : outcome = .ok a := h
  rfl

/-- A traversal that succeeds records the events of its steps in their order. -/
theorem events_mapM {f : α → Traced ε β} {list : List α} {results : List β}
    (h : (list.mapM f).outcome = .ok results) :
    (list.mapM f).events = list.flatMap fun a => (f a).events := by
  induction list generalizing results with
  | nil =>
    rw [List.mapM_nil]
    rfl
  | cons a list ih =>
    rw [List.mapM_cons] at h ⊢
    rw [outcome_bind] at h
    obtain ⟨b, hb, h⟩ := bind_eq_ok_iff.1 h
    rw [outcome_bind] at h
    obtain ⟨bs, hbs, -⟩ := bind_eq_ok_iff.1 h
    rw [events_bind hb, events_bind hbs, ih hbs, List.flatMap_cons]
    -- Putting the results together records nothing.
    show (f a).events ++ (list.flatMap (fun a => (f a).events) ++ []) = _
    rw [List.append_nil]

end Traced

/-! ## Events of an operation -/

namespace Operation

/-- An operation that can be expanded records the number of its overloads, since every parameter has
a candidate. -/
theorem events_traceExpand {op : Operation} (h : op.expand = .ok op.overloads) :
    op.traceExpand.events = [.expanded op.name op.overloads.length] := by
  have hcandidates : (op.candidatesIn ValueType.encryptedTypes ValueType.plaintextTypes).findIdx?
      List.isEmpty = none := by
    rw [List.findIdx?_eq_none_iff]
    intro list hlist
    rw [List.isEmpty_eq_false_iff]
    rintro rfl
    exact op.nil_not_mem_candidates hlist
  show op.expansionEvents ValueType.encryptedTypes ValueType.plaintextTypes = _
  unfold expansionEvents
  unfold expand at h
  rw [hcandidates, h]

/-- Looking for the test of an operation records a warning if the operation should have one and no
template fits it. -/
theorem events_traceTest (op : Operation) :
    op.traceTest.events =
      if op.name ≠ "decrypt" ∧ op.testTemplate? = none then [.untested op.name op.params]
      else [] := by
  unfold traceTest testEvents testContract? untestedNames
  rw [List.contains_cons, List.contains_nil, Bool.or_false]
  by_cases hname : op.name = "decrypt"
  · rw [if_pos (beq_iff_eq.2 hname), if_neg fun h => h.1 hname]
  · rw [if_neg (by rw [beq_iff_eq]; exact hname)]
    cases op.testTemplate? with
    | none => exact (if_pos ⟨hname, rfl⟩).symm
    | some template => exact (if_neg fun h => nomatch h.2).symm

/-- An operation that can be expanded records at most a warning that it is not tested, and then the
number of its overloads. -/
theorem events_contribution {op : Operation} (h : op.expand = .ok op.overloads) :
    op.contribution.events =
      (if op.name ≠ "decrypt" ∧ op.testTemplate? = none then [.untested op.name op.params]
        else []) ++ [.expanded op.name op.overloads.length] := by
  unfold contribution
  rw [Traced.events_bind op.outcome_traceTest,
    Traced.events_bind (show op.traceExpand.outcome = .ok op.overloads from h),
    events_traceTest, events_traceExpand h]
  rfl

/-- An operation has a test contract, or is warned of, or is the decryption. -/
theorem ownContract?_eq_none_iff {op : Operation} :
    op.ownContract? = none ↔ op.name = "decrypt" ∨ op.testTemplate? = none := by
  unfold ownContract? testContract? untestedNames
  rw [List.contains_cons, List.contains_nil, Bool.or_false]
  by_cases hname : op.name = "decrypt"
  · rw [if_pos (beq_iff_eq.2 hname)]
    exact iff_of_true rfl (.inl hname)
  · rw [if_neg (by rw [beq_iff_eq]; exact hname), Option.map_eq_none_iff]
    exact (or_iff_right hname).symm

end Operation

/-! ## The record as a whole -/

/-- A generation that succeeds has expanded every operation, and records what each of them does. -/
theorem events_generate {ops : List Operation} {a : Artifacts}
    (h : (generate ops).outcome = .ok a) :
    (generate ops).events = ops.flatMap fun op =>
      (if op.name ≠ "decrypt" ∧ op.testTemplate? = none then [.untested op.name op.params]
        else []) ++ [.expanded op.name op.overloads.length] := by
  obtain ⟨sigs, library, hsigs, hlibrary, hkeys, -⟩ := outcome_generate_eq_ok_iff.1 h
  obtain ⟨hops, rfl⟩ := expandAll_eq_ok_iff_overloads.1 hsigs
  unfold generate at h ⊢
  rw [Traced.outcome_bind] at h
  obtain ⟨contributions, hcontributions, h⟩ := bind_eq_ok_iff.1 h
  rw [Traced.outcome_bind] at h
  obtain ⟨library', hlibrary', h⟩ := bind_eq_ok_iff.1 h
  rw [Traced.outcome_bind] at h
  obtain ⟨done, hdone, -⟩ := bind_eq_ok_iff.1 h
  rw [Traced.events_bind hcontributions, Traced.events_bind hlibrary', Traced.events_bind hdone,
    Traced.events_mapM hcontributions]
  -- The last stages record nothing.
  refine (List.append_nil _).trans ?_
  apply List.flatMap_congr
  intro op hop
  exact Operation.events_contribution (hops op hop)

/-! ## Numbers -/

/-- Every operation has a test contract or a warning or is the decryption, and every encrypted type
has a contract for the conversions into it. -/
theorem length_testContracts_add (ops : List Operation) :
    (testContracts ops).length +
        ops.countP (fun op => op.name ≠ "decrypt" ∧ op.testTemplate? = none) +
        ops.countP (fun op => op.name = "decrypt") = ops.length + 8 := by
  have hcastings : TestContract.castings.length = 8 := rfl
  have hops : (ops.filterMap Operation.ownContract?).length +
      ops.countP (fun op => op.name ≠ "decrypt" ∧ op.testTemplate? = none) +
      ops.countP (fun op => op.name = "decrypt") = ops.length := by
    induction ops with
    | nil => rfl
    | cons op ops ih =>
      rw [List.countP_cons, List.countP_cons, List.length_cons, ← ih]
      cases hown : op.ownContract? with
      | some contract =>
        have hneither := mt Operation.ownContract?_eq_none_iff.2 (hown ▸ Option.some_ne_none _)
        rw [not_or] at hneither
        rw [List.filterMap_cons_some hown, List.length_cons]
        simp only [hneither.1, hneither.2, ne_eq, not_false_eq_true, and_false, decide_false,
          Bool.false_eq_true, if_false]
        omega
      | none =>
        rw [List.filterMap_cons_none hown]
        by_cases hname : op.name = "decrypt"
        · simp only [hname, ne_eq, not_true_eq_false, false_and, decide_false, decide_true,
            Bool.false_eq_true, if_false, if_true]
          omega
        · have htemplate := (Operation.ownContract?_eq_none_iff.1 hown).resolve_left hname
          simp only [hname, htemplate, ne_eq, not_false_eq_true, and_self, decide_false,
            decide_true, Bool.false_eq_true, if_false, if_true]
          omega
  rw [testContracts, List.length_append, hcastings]
  omega

/-- The warnings in the record of a generation that succeeds are those of the operations that should
have a test and that no template fits. -/
theorem countP_warn_events_generate {ops : List Operation} {a : Artifacts}
    (h : (generate ops).outcome = .ok a) :
    (generate ops).events.countP (fun event => event.level = .warn) =
      ops.countP fun op => op.name ≠ "decrypt" ∧ op.testTemplate? = none := by
  rw [events_generate h]
  clear h
  induction ops with
  | nil => rfl
  | cons op ops ih =>
    have hexpanded : ([.expanded op.name op.overloads.length] : List Event).countP
        (fun event => event.level = .warn) = 0 := rfl
    rw [List.flatMap_cons, List.countP_append, List.countP_append, hexpanded, ih, List.countP_cons]
    by_cases huntested : op.name ≠ "decrypt" ∧ op.testTemplate? = none
    · rw [if_pos huntested, if_pos (decide_eq_true huntested), Nat.add_comm]
      rfl
    · rw [if_neg huntested, if_neg (by rw [decide_eq_true_eq]; exact huntested), Nat.add_comm]
      rfl

/-- The numbers of overloads of some operations that can be expanded add up to the products of the
numbers of candidates, over the operations with parameters. -/
theorem sum_length_overloads {ops : List Operation}
    (h : ∀ op ∈ ops, op.expand = .ok op.overloads) :
    (ops.map fun op => op.overloads.length).sum =
      ((ops.filter fun op => op.params ≠ []).map fun op =>
        (op.candidates.map List.length).prod).sum := by
  induction ops with
  | nil => rfl
  | cons op ops ih =>
    rw [List.forall_mem_cons] at h
    rw [List.map_cons, List.sum_cons, ih h.2, Operation.length_overloads h.1]
    by_cases hparams : op.params = []
    · rw [if_pos hparams, Nat.zero_add, List.filter_cons_of_neg (by simp [hparams])]
    · rw [if_neg hparams, List.filter_cons_of_pos (by simp [hparams]), List.map_cons,
        List.sum_cons]

/-! ## What is logged -/

/-- What a log holds of an event: its level, its message and its fields. -/
def Event.logged (event : Event) : Level × String × List (String × Field) :=
  (event.level, event.message, event.fields)

/-- The log of a generation that succeeds. For each operation in turn it tells the number of its
overloads, and right before that it warns of an operation that should have a test and that no
template fits. There is nothing else in it. The numbers add up to that of the generated functions,
and the contracts, the warnings and the decryptions to that of the operations and conversions. -/
theorem logged_events_generate {ops : List Operation} {a : Artifacts}
    (h : (generate ops).outcome = .ok a) :
    (∀ op ∈ ops, op.expand = .ok op.overloads) ∧
      (generate ops).events.map Event.logged = (ops.flatMap fun op =>
        (if op.name ≠ "decrypt" ∧ op.testTemplate? = none then
          [(.warn, "test contract not implemented for this shape",
            [("function", .quoted op.name), ("inputs", .count op.arity),
              ("params", .bare ("[" ++ ", ".intercalate (op.params.map Parameter.shown) ++ "]"))])]
        else []) ++
          [(.debug, "expanded",
            [("operation", .bare op.name), ("count", .count op.overloads.length)])]) ∧
      (ops.map fun op => op.overloads.length).sum = a.signatureCount ∧
      a.signatureCount = ((ops.filter fun op => op.params ≠ []).map fun op =>
        (op.candidates.map List.length).prod).sum ∧
      a.contracts.length + (generate ops).events.countP (fun event => event.level = .warn) +
        ops.countP (fun op => op.name = "decrypt") = ops.length + 8 := by
  obtain ⟨sigs, library, hsigs, -, -, ha⟩ := outcome_generate_eq_ok_iff.1 h
  obtain ⟨hops, rfl⟩ := expandAll_eq_ok_iff_overloads.1 hsigs
  have hsum : (ops.map fun op => op.overloads.length).sum = a.signatureCount := by
    rw [ha, List.length_flatMap]
  refine ⟨hops, ?_, hsum, hsum.symm.trans (sum_length_overloads hops), ?_⟩
  · rw [events_generate h, List.map_flatMap]
    apply List.flatMap_congr
    intro op _
    rw [List.map_append, apply_ite (List.map Event.logged)]
    rfl
  · rw [countP_warn_events_generate h, ha]
    exact length_testContracts_add ops

/-- An operation without parameters and one on a truth value are warned of, and the decryption is
not. The comparison has a contract and a function for every two encrypted numbers. -/
theorem logged_events_of_four_operations :
    ∃ a, (generate [⟨"nothing", [], .promoted, false, false⟩,
        ⟨"lt", [.anyEncrypted, .anyEncrypted], .exactly .ebool, false, false⟩,
        ⟨"decrypt", [.exactly .ebool], .extracted, false, false⟩,
        ⟨"not", [.exactly .ebool], .promoted, true, false⟩]).outcome = .ok a ∧
      (generate [⟨"nothing", [], .promoted, false, false⟩,
        ⟨"lt", [.anyEncrypted, .anyEncrypted], .exactly .ebool, false, false⟩,
        ⟨"decrypt", [.exactly .ebool], .extracted, false, false⟩,
        ⟨"not", [.exactly .ebool], .promoted, true, false⟩]).events.map Event.logged =
        [(.warn, "test contract not implemented for this shape",
            [("function", .quoted "nothing"), ("inputs", .count 0), ("params", .bare "[]")]),
          (.debug, "expanded", [("operation", .bare "nothing"), ("count", .count 0)]),
          (.debug, "expanded", [("operation", .bare "lt"), ("count", .count 36)]),
          (.debug, "expanded", [("operation", .bare "decrypt"), ("count", .count 1)]),
          (.warn, "test contract not implemented for this shape",
            [("function", .quoted "not"), ("inputs", .count 1),
              ("params", .bare "[Fixed(Ebool)]")]),
          (.debug, "expanded", [("operation", .bare "not"), ("count", .count 1)])] ∧
      a.signatureCount = 38 ∧ a.contracts.length = 9 := by
  obtain ⟨a, ha⟩ : ∃ a, (generate [⟨"nothing", [], .promoted, false, false⟩,
      ⟨"lt", [.anyEncrypted, .anyEncrypted], .exactly .ebool, false, false⟩,
      ⟨"decrypt", [.exactly .ebool], .extracted, false, false⟩,
      ⟨"not", [.exactly .ebool], .promoted, true, false⟩]).outcome = .ok a :=
    exists_outcome_generate_iff.2 ⟨by decide, by decide, by decide +kernel⟩
  obtain ⟨-, hlogged, hsum, -, hcontracts⟩ := logged_events_generate ha
  refine ⟨a, ha, hlogged.trans (by decide +kernel), hsum.symm.trans (by decide +kernel), ?_⟩
  rw [countP_warn_events_generate ha] at hcontracts
  have hnumbers : a.contracts.length + 2 + 1 = 4 + 8 := hcontracts
  omega

end FheSolidity
