import FheSolidity.Text.Uppercase
import Mathlib

/-!
# What upper case brings in

A capitalized name may have characters that the name does not have. Of these the capital letters are
the only ones in ASCII (`mem_capitalize`), so a line break, a bracket or any other mark stands in a
capitalized name only if it stands in the name (`not_mem_capitalize`).
-/

namespace FheSolidity.Text

/-- The code points that upper case may bring in: those of the ASCII capital letters, and all beyond
ASCII. -/
def IsCapital (point : Nat) : Prop :=
  65 ≤ point ∧ point ≤ 90 ∨ 128 ≤ point ∧ point < 0xD800 ∨ 0xE000 ≤ point ∧ point < 0x110000

/-- Whether upper case may bring in a code point can be found out. -/
instance : DecidablePred IsCapital :=
  fun _ => inferInstanceAs (Decidable (_ ∨ _ ∨ _))

/-- Every such code point is that of a character. -/
theorem toNat_ofNat_of_isCapital {point : Nat} (h : IsCapital point) :
    (Char.ofNat point).toNat = point := by
  have hvalid : point.isValidChar := by
    unfold IsCapital at h
    unfold Nat.isValidChar
    omega
  rw [Char.toNat_ofNat, if_pos hvalid]

/-- The long uppercase forms consist of such code points. -/
theorem isCapital_of_mem_longUppercase :
    ∀ entry ∈ longUppercase, ∀ point ∈ entry.2, IsCapital point := by
  decide +kernel

/-- The first and the last uppercase form of a run are such code points, and so is all between
them. -/
theorem isCapital_of_mem_uppercaseRuns :
    ∀ run ∈ uppercaseRuns, ∀ distance ≤ run.last - run.first,
      IsCapital (run.target + distance) := by
  have hends : ∀ run ∈ uppercaseRuns,
      65 ≤ run.target ∧ run.target + (run.last - run.first) ≤ 90 ∨
        128 ≤ run.target ∧ run.target + (run.last - run.first) < 0xD800 ∨
          0xE000 ≤ run.target ∧ run.target + (run.last - run.first) < 0x110000 := by
    decide +kernel
  intro run hrun distance hdistance
  have hrun := hends run hrun
  unfold IsCapital
  omega

/-- A character becomes itself in upper case, or what it becomes is brought in. -/
theorem isCapital_of_mem_uppercase {c d : Char} (h : d ∈ uppercase c) :
    d = c ∨ IsCapital d.toNat := by
  unfold uppercase at h
  split at h
  · next points hpoints =>
    obtain ⟨front, back, hentry, -⟩ := List.lookup_eq_some_iff.1 hpoints
    obtain ⟨point, hpoint, rfl⟩ := List.mem_map.1 h
    have hcapital : IsCapital point :=
      isCapital_of_mem_longUppercase (c.toNat, points) (by rw [hentry]; simp) point hpoint
    rw [toNat_ofNat_of_isCapital hcapital]
    exact .inr hcapital
  · split at h
    · next run hrun =>
      have hcontains := List.find?_some hrun
      unfold UppercaseRun.contains at hcontains
      simp only [Bool.and_eq_true, decide_eq_true_eq] at hcontains
      have hcapital : IsCapital (run.image c.toNat) :=
        isCapital_of_mem_uppercaseRuns run (List.mem_of_find?_eq_some hrun) _ (by omega)
      rw [List.mem_singleton] at h
      rw [h, toNat_ofNat_of_isCapital hcapital]
      exact .inr hcapital
    · exact .inl (List.mem_singleton.1 h)

/-- Every character of a capitalized name stands in the name or is brought in. -/
theorem mem_capitalize {name : String} {c : Char} (h : c ∈ (capitalize name).toList) :
    c ∈ name.toList ∨ IsCapital c.toNat := by
  unfold capitalize at h
  split at h
  · exact absurd h List.not_mem_nil
  · next first rest hname =>
    rw [String.toList_ofList, List.mem_append] at h
    rw [hname, List.mem_cons]
    rcases h with h | h
    · exact (isCapital_of_mem_uppercase h).imp_left .inl
    · exact .inl (.inr h)

/-- What upper case does not bring in stands in a capitalized name only if it stands in the name. -/
theorem not_mem_capitalize {name : String} {c : Char} (hc : ¬IsCapital c.toNat)
    (h : c ∉ name.toList) : c ∉ (capitalize name).toList := by
  intro hmem
  rcases mem_capitalize hmem with hname | hcapital
  · exact h hname
  · exact hc hcapital

end FheSolidity.Text
