import FheSolidity.Proofs.Expansion.Choices

/-!
# Choices by their places

A choice from some lists is given by one place in each of them, and these places tell where the
choice stands among all choices. They are the digits of its index in the mixed radix of the lengths
(`choiceIndex`), the place in the first list being the most significant. So the index counts a place
in a list as often as there are choices from the lists behind it.

`getElem?_flatMap_cons` is the step from the lists behind the first one to all of them: the choices
come in blocks of one length, one for each element of the first list. `getElem?_choices` follows
along the lists.
-/

namespace FheSolidity

open Finset (Ioi)

variable {α : Type}

/-- One place in each of some lists. -/
def Places (lists : List (List α)) : Type :=
  (j : Fin lists.length) → Fin (lists.get j).length

/-- The elements at some places. -/
def choiceAt (lists : List (List α)) (places : Places lists) : List α :=
  List.ofFn fun j => (lists.get j).get (places j)

/-- The index of the choice at some places: each place, times the lengths of all lists behind. -/
def choiceIndex (lists : List (List α)) (places : Places lists) : Nat :=
  ∑ j, (places j : Nat) * ∏ m ∈ Ioi j, (lists.get m).length

/-- The places in all lists but the first. -/
def Places.tail {list : List α} {lists : List (List α)} (places : Places (list :: lists)) :
    Places lists :=
  fun j => places j.succ

/-- The first element comes before those at the other places. -/
theorem choiceAt_cons {list : List α} {lists : List (List α)} (places : Places (list :: lists)) :
    choiceAt (list :: lists) places = list.get (places 0) :: choiceAt lists places.tail :=
  List.ofFn_succ

/-- The first place counts as often as there are choices from the other lists. -/
theorem choiceIndex_cons {list : List α} {lists : List (List α)}
    (places : Places (list :: lists)) :
    choiceIndex (list :: lists) places =
      places 0 * (choices lists).length + choiceIndex lists places.tail := by
  have hfirst : ∏ m ∈ Ioi (0 : Fin (lists.length + 1)), ((list :: lists).get m).length =
      (choices lists).length := by
    calc ∏ m ∈ Ioi (0 : Fin (lists.length + 1)), ((list :: lists).get m).length
      _ = ∏ m, (lists.get m).length := Fin.prod_Ioi_zero _
      _ = (lists.map List.length).prod := by
          rw [← List.prod_ofFn]
          congr 1
          exact List.ofFn_getElem_eq_map lists List.length
      _ = (choices lists).length := (length_choices lists).symm
  have hothers : ∀ j : Fin lists.length,
      ∏ m ∈ Ioi j.succ, ((list :: lists).get m).length = ∏ m ∈ Ioi j, (lists.get m).length :=
    fun j => Fin.prod_Ioi_succ _ j
  calc choiceIndex (list :: lists) places
    _ = places 0 * ∏ m ∈ Ioi (0 : Fin (lists.length + 1)), ((list :: lists).get m).length +
          ∑ j : Fin lists.length,
            places j.succ * ∏ m ∈ Ioi j.succ, ((list :: lists).get m).length :=
        Fin.sum_univ_succ _
    _ = places 0 * (choices lists).length + choiceIndex lists places.tail := by
        rw [hfirst]
        simp only [hothers]
        rfl

/-- Rows that are put behind each element of a list come in blocks, one for each element. -/
theorem getElem?_flatMap_cons {list : List α} {tails : List (List α)} {r : Nat} {tail : List α}
    (htail : tails[r]? = some tail) (q : Fin list.length) :
    (list.flatMap fun a => tails.map fun tail => a :: tail)[q * tails.length + r]? =
      some (list.get q :: tail) := by
  have hr : r < tails.length := (List.getElem?_eq_some_iff.1 htail).1
  induction list with
  | nil => exact q.elim0
  | cons a list ih =>
    rw [List.flatMap_cons]
    cases q using Fin.cases with
    | zero =>
      rw [List.getElem?_append_left (by simpa using hr)]
      simp [htail]
    | succ q =>
      -- The first block is skipped.
      have hskip : (q.succ : Nat) * tails.length + r =
          (tails.map fun tail => a :: tail).length + (q * tails.length + r) := by
        rw [List.length_map, Fin.val_succ]
        ring
      rw [hskip, List.getElem?_append_right (Nat.le_add_right _ _), Nat.add_sub_cancel_left]
      exact ih q

/-- The choice at some places stands at their index. -/
theorem getElem?_choices (lists : List (List α)) (places : Places lists) :
    (choices lists)[choiceIndex lists places]? = some (choiceAt lists places) := by
  induction lists with
  | nil => rfl
  | cons list lists ih =>
    rw [choiceIndex_cons, choiceAt_cons, choices]
    exact getElem?_flatMap_cons (ih places.tail) (places 0)

/-- The combinations of one list or more are as many as the product of the lengths, and the one at
any places stands at their index. No lists give no combinations, and lists without repetitions give
combinations without repetitions. -/
theorem combinations_by_places (lists : List (List α)) :
    (lists ≠ [] → (combinations lists).length = (lists.map List.length).prod ∧
      ∀ places : Places lists,
        (combinations lists)[choiceIndex lists places]? = some (choiceAt lists places)) ∧
    combinations ([] : List (List α)) = [] ∧
    ((∀ list ∈ lists, list.Nodup) → (combinations lists).Nodup) := by
  refine ⟨?_, rfl, nodup_combinations⟩
  intro hlists
  rw [combinations_of_ne_nil hlists]
  exact ⟨length_choices lists, getElem?_choices lists⟩

/-- Of the eight combinations of two, one and four elements, the one at the second, first and third
place is the seventh. -/
theorem combinations_by_places_of_three_lists :
    [['a', 'b'], ['x'], ['1', '2', '3', '4']] ≠ [] ∧
    (combinations [['a', 'b'], ['x'], ['1', '2', '3', '4']]).length = 8 ∧
    (combinations [['a', 'b'], ['x'], ['1', '2', '3', '4']])[6]? = some ['b', 'x', '3'] ∧
    (∀ list ∈ [['a', 'b'], ['x'], ['1', '2', '3', '4']], list.Nodup) ∧
    (combinations [['a', 'b'], ['x'], ['1', '2', '3', '4']]).Nodup := by
  have hnodup : ∀ list ∈ [['a', 'b'], ['x'], ['1', '2', '3', '4']], list.Nodup := by decide
  obtain ⟨hsome, -, hdistinct⟩ :=
    combinations_by_places [['a', 'b'], ['x'], ['1', '2', '3', '4']]
  obtain ⟨hlength, hplaces⟩ := hsome (List.cons_ne_nil _ _)
  let places : Places [['a', 'b'], ['x'], ['1', '2', '3', '4']] := fun j =>
    match j with
    | 0 => ⟨1, by decide⟩
    | 1 => ⟨0, by decide⟩
    | 2 => ⟨2, by decide⟩
  have hindex : choiceIndex [['a', 'b'], ['x'], ['1', '2', '3', '4']] places = 6 := by decide
  have hrow := hplaces places
  rw [hindex] at hrow
  exact ⟨List.cons_ne_nil _ _, hlength, hrow, hnodup, hdistinct hnodup⟩

end FheSolidity
