import FheSolidity.Proofs.Generation.Stages

/-!
# The keys of test contracts

Which keys the test contracts have can be told from the names of the operations and the ways they
are tested (`map_key_testContracts`). Generation refuses them exactly if two are equal, and reports
the first that repeats an earlier one (`checkKeys_testContracts_eq_error_iff`). The search for it
carries the keys that it has gone past, so what it finds is said for any keys seen before.
-/

namespace FheSolidity

/-! ## The keys of some operations -/

/-- The keys of the test contracts of some operations, read off their descriptions: the capitalized
names of those that are tested, and then those of the conversions. -/
def testKeys (ops : List Operation) : List String :=
  ((ops.filter fun op => op.name != "decrypt" && op.testTemplate?.isSome).map fun op =>
      Text.capitalize op.name) ++
    ["AsEbool", "AsEuint8", "AsEuint16", "AsEuint32", "AsEuint64", "AsEuint128", "AsEuint256",
      "AsEbytes"]

/-- A key is the first in a list that repeats an earlier one. -/
def FirstRepeat (key : String) (keys : List String) : Prop :=
  ∃ earlier later, keys = earlier ++ key :: later ∧ earlier.Nodup ∧ key ∈ earlier

/-- The contract that tests an operation in its way is named for the operation. -/
theorem key_contract {op : Operation} {template : TestTemplate}
    (h : op.testTemplate? = some template) :
    (template.contract op).key = Text.capitalize op.name := by
  cases template with
  -- These two contracts have fixed names, which are those of the operations that get them.
  | req =>
    have hname : op.name = "req" := by
      unfold Operation.testTemplate? at h
      grind
    rw [hname]
    rfl
  | reencrypt =>
    have hname : op.name = "reencrypt" := by
      unfold Operation.testTemplate? at h
      grind
    rw [hname]
    rfl
  | comparison => rfl
  | binary symbol => rfl
  | unary => rfl
  | ternary => rfl

/-- The contract of an operation has its capitalized name for a key, and is there exactly if the
operation is tested. -/
theorem map_key_ownContract? (op : Operation) :
    op.ownContract?.map TestContract.key =
      if op.name != "decrypt" && op.testTemplate?.isSome then some (Text.capitalize op.name)
      else none := by
  have hcontains : Operation.untestedNames.contains op.name = (op.name == "decrypt") := by
    unfold Operation.untestedNames
    rw [List.contains_cons, List.contains_nil, Bool.or_false]
  unfold Operation.ownContract? Operation.testContract?
  rw [hcontains, bne]
  cases op.name == "decrypt" with
  | true => rfl
  | false =>
    cases htemplate : op.testTemplate? with
    | none => rfl
    | some template => exact congrArg some (key_contract htemplate)

/-- The keys of the test contracts are those that the descriptions tell. -/
theorem map_key_testContracts (ops : List Operation) :
    (testContracts ops).map TestContract.key = testKeys ops := by
  have hown : (ops.filterMap Operation.ownContract?).map TestContract.key =
      (ops.filter fun op => op.name != "decrypt" && op.testTemplate?.isSome).map fun op =>
        Text.capitalize op.name := by
    rw [List.map_filterMap, ← List.filterMap_eq_map, List.filterMap_filter]
    congr 1
    funext op
    exact map_key_ownContract? op
  have hcastings : TestContract.castings.map TestContract.key = ["AsEbool", "AsEuint8", "AsEuint16",
      "AsEuint32", "AsEuint64", "AsEuint128", "AsEuint256", "AsEbytes"] := by
    decide +kernel
  rw [testContracts, List.map_append, hown, hcastings, testKeys]

/-! ## Repeated keys -/

/-- Some keys are distinct and new exactly if the first is new, and the others are distinct and new
once the first has been seen. -/
theorem nodup_cons_and_new_iff {seen keys : List String} {first : String} :
    ((first :: keys).Nodup ∧ ∀ k ∈ first :: keys, k ∉ seen) ↔
      first ∉ seen ∧ keys.Nodup ∧ ∀ k ∈ keys, k ∉ first :: seen := by
  have hfirst : first ∉ keys ↔ ∀ k ∈ keys, ¬k = first := by
    constructor
    · rintro h k hk rfl
      exact h hk
    · intro h hmem
      exact h first hmem rfl
  rw [List.nodup_cons, List.forall_mem_cons, hfirst]
  simp only [List.mem_cons, not_or, forall_and]
  tauto

/-- The search finds the first key that was seen before or repeats an earlier one. -/
theorem firstRepeated?_eq_some_iff {seen keys : List String} {key : String} :
    firstRepeated? seen keys = some key ↔
      ∃ earlier later, keys = earlier ++ key :: later ∧ earlier.Nodup ∧ (∀ k ∈ earlier, k ∉ seen) ∧
        (key ∈ seen ∨ key ∈ earlier) := by
  -- A key that was gone past moves from the front of the keys to those that were seen.
  induction keys generalizing seen with
  | nil => simp [firstRepeated?]
  | cons first keys ih =>
    rw [firstRepeated?]
    split
    · next hseen =>
      rw [List.contains_iff_mem] at hseen
      constructor
      · intro h
        rw [← Option.some.inj h]
        exact ⟨[], keys, rfl, List.nodup_nil, by simp, .inl hseen⟩
      · intro h
        obtain ⟨earlier, later, hkeys, -, hnew, -⟩ := h
        cases earlier with
        | nil => rw [(List.cons.inj hkeys).1]
        | cons k earlier =>
          obtain ⟨rfl, -⟩ := List.cons.inj hkeys
          exact absurd hseen (hnew _ List.mem_cons_self)
    · next hseen =>
      rw [List.contains_iff_mem] at hseen
      have hmoved : ∀ earlier, (key ∈ first :: seen ∨ key ∈ earlier) ↔
          (key ∈ seen ∨ key ∈ first :: earlier) := by
        intro earlier
        rw [List.mem_cons, List.mem_cons, or_assoc, or_left_comm]
      rw [ih]
      constructor
      · intro h
        obtain ⟨earlier, later, rfl, hnodup, hnew, hkey⟩ := h
        obtain ⟨hnodup, hnew⟩ := nodup_cons_and_new_iff.2 ⟨hseen, hnodup, hnew⟩
        exact ⟨first :: earlier, later, rfl, hnodup, hnew, (hmoved earlier).1 hkey⟩
      · intro h
        obtain ⟨earlier, later, hkeys, hnodup, hnew, hkey⟩ := h
        cases earlier with
        | nil =>
          obtain ⟨rfl, -⟩ := List.cons.inj hkeys
          exact absurd hkey (not_or.2 ⟨hseen, List.not_mem_nil⟩)
        | cons k earlier =>
          obtain ⟨rfl, rfl⟩ := List.cons.inj hkeys
          obtain ⟨-, hnodup, hnew⟩ := nodup_cons_and_new_iff.1 ⟨hnodup, hnew⟩
          exact ⟨earlier, later, rfl, hnodup, hnew, (hmoved earlier).2 hkey⟩

/-- The search finds nothing exactly if the keys are new and no two are equal. -/
theorem firstRepeated?_eq_none_iff {seen keys : List String} :
    firstRepeated? seen keys = none ↔ keys.Nodup ∧ ∀ k ∈ keys, k ∉ seen := by
  induction keys generalizing seen with
  | nil => simp [firstRepeated?]
  | cons first keys ih =>
    rw [firstRepeated?, nodup_cons_and_new_iff]
    split
    · next hseen =>
      rw [List.contains_iff_mem] at hseen
      exact iff_of_false (nomatch ·) fun h => h.1 hseen
    · next hseen =>
      rw [List.contains_iff_mem] at hseen
      rw [ih, and_iff_right hseen]

/-- Without any key seen before, the search finds the first that repeats an earlier one. -/
theorem firstRepeated?_nil_eq_some_iff {keys : List String} {key : String} :
    firstRepeated? [] keys = some key ↔ FirstRepeat key keys := by
  rw [firstRepeated?_eq_some_iff, FirstRepeat]
  simp only [List.not_mem_nil, not_false_eq_true, implies_true, true_and, false_or]

/-- Some key is the first to repeat an earlier one unless no two are equal. -/
theorem exists_firstRepeat_iff {keys : List String} :
    (∃ key, FirstRepeat key keys) ↔ ¬keys.Nodup := by
  have hnone : firstRepeated? [] keys = none ↔ keys.Nodup := by
    rw [firstRepeated?_eq_none_iff]
    exact and_iff_left fun k _ => List.not_mem_nil
  simp only [← firstRepeated?_nil_eq_some_iff]
  rw [← hnone, ← ne_eq, Option.ne_none_iff_exists']

/-- The keys of the test contracts are refused exactly if one repeats an earlier one, and then for
the first that does. -/
theorem checkKeys_testContracts_eq_error_iff {ops : List Operation} {e : Failure} :
    checkKeys (testContracts ops) = .error e ↔
      ∃ key, FirstRepeat key (testKeys ops) ∧ e = .duplicateContract key := by
  unfold checkKeys
  rw [map_key_testContracts]
  simp only [← firstRepeated?_nil_eq_some_iff]
  cases firstRepeated? [] (testKeys ops) with
  | none =>
    constructor
    · intro h
      exact nomatch h
    · intro h
      obtain ⟨key, hkey, -⟩ := h
      exact nomatch hkey
  | some key =>
    constructor
    · intro h
      exact ⟨key, rfl, (Except.error.inj h).symm⟩
    · intro h
      obtain ⟨key', hkey, rfl⟩ := h
      rw [Option.some.inj hkey]

end FheSolidity
