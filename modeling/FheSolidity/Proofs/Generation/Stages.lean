import FheSolidity.Generation
import FheSolidity.Proofs.Traversal

/-!
# Generation by its stages

Generation takes each operation through two steps before it goes on to the next, and records events
on the way. Without the record it is a chain of three stages over all operations
(`outcome_generate_eq`): the operations are expanded, the library is written for all overloads, and
the keys of the test contracts are compared. Which contracts these are depends on no other stage.
-/

namespace FheSolidity

/-! ## Outcomes without their record -/

namespace Traced

variable {α β ε : Type}

/-- The outcome of a computation without events. -/
theorem outcome_pure (a : α) : (pure a : Traced ε α).outcome = .ok a := rfl

/-- The outcome of two computations in a row is that of the two outcomes in a row. -/
theorem outcome_bind (first : Traced ε α) (next : α → Traced ε β) :
    (first >>= next).outcome = first.outcome >>= fun a => (next a).outcome := by
  obtain ⟨events, outcome⟩ := first
  cases outcome with
  | ok a => rfl
  | error e => rfl

/-- The outcome of a traversal is the traversal of the outcomes. -/
theorem outcome_mapM (f : α → Traced ε β) (list : List α) :
    (list.mapM f).outcome = list.mapM fun a => (f a).outcome := by
  induction list with
  | nil => rw [List.mapM_nil, List.mapM_nil, outcome_pure]; rfl
  | cons a list ih =>
    rw [List.mapM_cons, List.mapM_cons, outcome_bind]
    congr 1
    funext b
    rw [outcome_bind, ih]
    rfl

end Traced

/-! ## Contributions -/

namespace Operation

/-- The test contract that an operation brings in. -/
def ownContract? (op : Operation) : Option TestContract :=
  if untestedNames.contains op.name then none else op.testContract?

/-- The test contract of an operation never fails to be made. -/
theorem outcome_traceTest (op : Operation) : op.traceTest.outcome = .ok op.ownContract? := by
  unfold traceTest ownContract?
  split
  · rfl
  · rfl

/-- An operation contributes its test contract and its overloads, or fails as its expansion does. -/
theorem outcome_contribution (op : Operation) :
    op.contribution.outcome = op.expand >>= fun sigs => .ok (op.ownContract?, sigs) := by
  unfold contribution
  rw [Traced.outcome_bind, outcome_traceTest]
  show (op.traceExpand >>= _).outcome = _
  rw [Traced.outcome_bind]
  rfl

end Operation

/-- The test contracts of some operations, with those of the conversions. -/
def testContracts (ops : List Operation) : List TestContract :=
  ops.filterMap Operation.ownContract? ++ TestContract.castings

/-- A test contract is that of one of the operations, or one of the conversions. -/
theorem of_mem_testContracts {ops : List Operation} {c : TestContract} (h : c ∈ testContracts ops) :
    (∃ op ∈ ops, op.testContract? = some c) ∨ c ∈ TestContract.castings := by
  unfold testContracts at h
  rcases List.mem_append.1 h with h | h
  · obtain ⟨op, hop, h⟩ := List.mem_filterMap.1 h
    unfold Operation.ownContract? at h
    rw [Option.ite_none_left_eq_some] at h
    exact .inl ⟨op, hop, h.2⟩
  · exact .inr h

/-- The contributions of some operations pair their test contracts with their overloads. -/
theorem outcome_mapM_contribution (ops : List Operation) :
    (ops.mapM Operation.contribution).outcome = ops.mapM Operation.expand >>= fun families =>
      .ok ((ops.map Operation.ownContract?).zip families) := by
  rw [Traced.outcome_mapM]
  simp only [Operation.outcome_contribution]
  induction ops with
  | nil => rfl
  | cons op ops ih =>
    rw [List.mapM_cons, List.mapM_cons, ih]
    -- Whichever of the two steps fails first, both sides fail there.
    cases op.expand with
    | error e => rfl
    | ok sigs =>
      cases ops.mapM Operation.expand with
      | error e => rfl
      | ok families => rfl

/-! ## The stages -/

/-- Generation expands the operations, writes the library for all overloads, and compares the keys
of the test contracts. -/
theorem outcome_generate_eq (ops : List Operation) :
    (generate ops).outcome = (do
      let sigs ← expandAll ops
      let library ← libraryText sigs
      checkKeys (testContracts ops)
      return ⟨library, testContracts ops, sigs.length⟩) := by
  unfold generate expandAll
  rw [Traced.outcome_bind, outcome_mapM_contribution]
  cases hfamilies : ops.mapM Operation.expand with
  | error e => rfl
  | ok families =>
    have hlength : ops.length = families.length := (mapM_eq_ok_iff.1 hfamilies).length_eq
    have hsnd : ((ops.map Operation.ownContract?).zip families).map Prod.snd = families :=
      List.map_snd_zip (by rw [List.length_map]; omega)
    have hfst : ((ops.map Operation.ownContract?).zip families).map Prod.fst =
        ops.map Operation.ownContract? :=
      List.map_fst_zip (by rw [List.length_map]; omega)
    have hsigs : ((ops.map Operation.ownContract?).zip families).flatMap Prod.snd =
        families.flatten := by
      rw [List.flatMap_def, hsnd]
    have htests : ((ops.map Operation.ownContract?).zip families).filterMap Prod.fst =
        ops.filterMap Operation.ownContract? := by
      calc ((ops.map Operation.ownContract?).zip families).filterMap Prod.fst
        _ = (((ops.map Operation.ownContract?).zip families).map Prod.fst).filterMap id := by
            rw [List.filterMap_map, Function.id_comp]
        _ = ops.filterMap Operation.ownContract? := by
            rw [hfst, List.filterMap_map, Function.id_comp]
    have hcontracts : ((ops.map Operation.ownContract?).zip families).filterMap Prod.fst ++
        TestContract.castings = testContracts ops := by
      rw [htests, testContracts]
    show (Traced.lift _ >>= _ : Traced Failure Artifacts).outcome =
      libraryText families.flatten >>= _
    rw [hsigs, hcontracts]
    -- The two remaining stages are the same on both sides, whatever they come to.
    cases libraryText families.flatten with
    | error e => rfl
    | ok library =>
      cases checkKeys (testContracts ops) with
      | error e => rfl
      | ok done => rfl

/-- A generation that succeeds has expanded all operations and written the library for the
overloads. -/
theorem outcome_generate_eq_ok_iff {ops : List Operation} {a : Artifacts} :
    (generate ops).outcome = .ok a ↔
      ∃ sigs library, expandAll ops = .ok sigs ∧ libraryText sigs = .ok library ∧
        checkKeys (testContracts ops) = .ok () ∧
        a = ⟨library, testContracts ops, sigs.length⟩ := by
  rw [outcome_generate_eq, bind_eq_ok_iff]
  constructor
  · intro h
    obtain ⟨sigs, hsigs, h⟩ := h
    obtain ⟨library, hlibrary, h⟩ := bind_eq_ok_iff.1 h
    obtain ⟨⟨⟩, hkeys, h⟩ := bind_eq_ok_iff.1 h
    exact ⟨sigs, library, hsigs, hlibrary, hkeys, (Except.ok.inj h).symm⟩
  · intro h
    obtain ⟨sigs, library, hsigs, hlibrary, hkeys, rfl⟩ := h
    refine ⟨sigs, hsigs, bind_eq_ok_iff.2 ⟨library, hlibrary, bind_eq_ok_iff.2 ⟨(), hkeys, rfl⟩⟩⟩

end FheSolidity
