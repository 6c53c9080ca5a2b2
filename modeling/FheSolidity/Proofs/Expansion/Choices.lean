import Mathlib
import FheSolidity.Expansion

/-!
# Choices in their order

A choice takes one element from each list (`mem_choices_iff`). All choices stand in the
lexicographic order of the places that their elements have in the lists, the place in the first list
counting most (`lexicographic_choices`). That needs no order on the elements and holds of lists with
repetitions; without repetitions no two choices are equal (`nodup_choices`).
-/

namespace FheSolidity

variable {α : Type}

/-! ## Single choices -/

/-- A choice takes one element from each list. -/
theorem mem_choices_iff {lists : List (List α)} {row : List α} :
    row ∈ choices lists ↔ List.Forall₂ (· ∈ ·) row lists := by
  induction lists generalizing row with
  | nil => rw [choices, List.mem_singleton, List.forall₂_nil_right_iff]
  | cons list lists ih =>
    rw [choices, List.mem_flatMap, List.forall₂_cons_right_iff]
    constructor
    · intro h
      obtain ⟨a, ha, hrow⟩ := h
      obtain ⟨tail, htail, rfl⟩ := List.mem_map.1 hrow
      exact ⟨a, tail, ha, ih.1 htail, rfl⟩
    · intro h
      obtain ⟨a, tail, ha, htail, rfl⟩ := h
      exact ⟨a, ha, List.mem_map.2 ⟨tail, ih.2 htail, rfl⟩⟩

/-- If no list is empty, there is a choice. -/
theorem choices_ne_nil {lists : List (List α)} (h : [] ∉ lists) : choices lists ≠ [] := by
  induction lists with
  | nil => exact List.cons_ne_nil _ _
  | cons list lists ih =>
    rw [List.mem_cons, not_or] at h
    obtain ⟨a, list, rfl⟩ := List.exists_cons_of_ne_nil (Ne.symm h.1)
    obtain ⟨row, rows, hrows⟩ := List.exists_cons_of_ne_nil (ih h.2)
    rw [choices, hrows]
    exact List.cons_ne_nil _ _

/-- The choices from one list are its elements. -/
theorem choices_singleton (list : List α) : choices [list] = list.map fun a => [a] :=
  List.flatMap_pure_eq_map (fun a => [a]) list

/-- There are as many choices as the product of the numbers of elements. -/
theorem length_choices (lists : List (List α)) :
    (choices lists).length = (lists.map List.length).prod := by
  induction lists with
  | nil => rfl
  | cons list lists ih =>
    rw [choices, List.length_flatMap, List.map_cons, List.prod_cons, ← ih]
    simp only [List.length_map, List.map_const', List.sum_replicate, smul_eq_mul]

/-! ## Their order -/

/-- Choices from lists whose elements are related in their order are related lexicographically in
theirs. -/
theorem pairwise_choices {r : α → α → Prop} {lists : List (List α)}
    (h : ∀ list ∈ lists, list.Pairwise r) : (choices lists).Pairwise (List.Lex r) := by
  induction lists with
  | nil => exact List.pairwise_singleton _ _
  | cons list lists ih =>
    have hlist : list.Pairwise r := h list List.mem_cons_self
    have htails := ih fun list hlist => h list (List.mem_cons_of_mem _ hlist)
    rw [choices, List.pairwise_flatMap]
    constructor
    · -- Choices with the same first element are compared behind it.
      intro a _
      rw [List.pairwise_map]
      exact htails.imp fun hlt => .cons hlt
    · -- Choices with different first elements are compared there.
      refine hlist.imp ?_
      intro a b hab x hx y hy
      obtain ⟨tail, -, rfl⟩ := List.mem_map.1 hx
      obtain ⟨tail', -, rfl⟩ := List.mem_map.1 hy
      exact .rel hab

/-- Lists without repetitions give choices without repetitions. -/
theorem nodup_choices {lists : List (List α)} (h : ∀ list ∈ lists, list.Nodup) :
    (choices lists).Nodup :=
  (pairwise_choices h).imp List.Lex.to_ne

/-- Some rows are all ways to take one element from each list, in the lexicographic order of the
places from which the elements are taken. -/
def Lexicographic (lists rows : List (List α)) : Prop :=
  ∃ places : List (List Nat), places.Pairwise (List.Lex (· < ·)) ∧
    (∀ place, place ∈ places ↔ List.Forall₂ (fun i list => i < list.length) place lists) ∧
    rows.map (List.map some) =
      places.map fun place => List.zipWith (fun list i => list[i]?) lists place

/-- The choices from some lists are the elements at the choices of their places. -/
theorem map_some_choices (lists : List (List α)) :
    (choices lists).map (List.map some) =
      (choices (lists.map fun list => List.range list.length)).map fun place =>
        List.zipWith (fun list i => list[i]?) lists place := by
  induction lists with
  | nil => rfl
  | cons list lists ih =>
    -- Both sides put each element of the first list, as an option, before what the others give.
    have hlist : list.map some = (List.range list.length).map fun i => list[i]? := by
      apply List.ext_getElem
      · simp
      · intro i hi _
        rw [List.length_map] at hi
        simp [List.getElem?_eq_getElem hi]
    calc (choices (list :: lists)).map (List.map some)
      _ = (list.map some).flatMap fun a =>
            ((choices lists).map (List.map some)).map fun tail => a :: tail := by
          simp only [choices, List.map_flatMap, List.map_map, List.flatMap_map, Function.comp_def,
            List.map_cons]
      _ = _ := by
          rw [hlist, ih]
          simp only [choices, List.map_cons, List.map_flatMap, List.map_map, List.flatMap_map,
            Function.comp_def, List.zipWith_cons_cons]

/-- The choices from some lists are all there are, in lexicographic order. -/
theorem lexicographic_choices (lists : List (List α)) : Lexicographic lists (choices lists) := by
  refine ⟨choices (lists.map fun list => List.range list.length), ?_, ?_, map_some_choices lists⟩
  · -- The places in each list are counted upwards.
    apply pairwise_choices
    intro list hlist
    obtain ⟨_, -, rfl⟩ := List.mem_map.1 hlist
    exact List.pairwise_lt_range
  · intro place
    rw [mem_choices_iff, List.forall₂_map_right_iff]
    simp only [List.mem_range]

/-! ## Combinations -/

/-- Without lists there are no combinations, and otherwise they are the choices. -/
theorem mem_combinations_iff {lists : List (List α)} {row : List α} :
    row ∈ combinations lists ↔ lists ≠ [] ∧ List.Forall₂ (· ∈ ·) row lists := by
  by_cases h : lists = []
  · rw [h]
    exact iff_of_false List.not_mem_nil fun hrow => hrow.1 rfl
  · rw [combinations_of_ne_nil h, mem_choices_iff]
    exact (and_iff_right h).symm

/-- There are no combinations exactly if there are no lists or one of them is empty. -/
theorem combinations_eq_nil_iff {lists : List (List α)} :
    combinations lists = [] ↔ lists = [] ∨ [] ∈ lists := by
  by_cases h : lists = []
  · rw [h]
    exact iff_of_true rfl (.inl rfl)
  · rw [combinations_of_ne_nil h, or_iff_right h]
    constructor
    · intro hnil
      by_contra hmem
      exact choices_ne_nil hmem hnil
    · exact choices_eq_nil_of_nil_mem

/-- Lists without repetitions give combinations without repetitions. -/
theorem nodup_combinations {lists : List (List α)} (h : ∀ list ∈ lists, list.Nodup) :
    (combinations lists).Nodup := by
  by_cases hlists : lists = []
  · rw [hlists]
    exact List.nodup_nil
  · rw [combinations_of_ne_nil hlists]
    exact nodup_choices h

end FheSolidity
