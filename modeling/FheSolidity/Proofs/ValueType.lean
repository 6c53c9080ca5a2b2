import FheSolidity.ValueType
import FheSolidity.Proofs.Text.Name

/-!
# How types are listed and spelled

The encrypted types are all in their list. The name of a type is one word of ASCII letters and
digits, and no two types share it, so `ValueType.ofName?` reads back what `ValueType.name` writes
and nothing else.
-/

namespace FheSolidity.ValueType

open Text

/-- The list of the encrypted types has all of them and no others. -/
theorem mem_encryptedTypes_iff {t : ValueType} : t ∈ encryptedTypes ↔ t.encrypted = true := by
  constructor
  · intro h
    obtain ⟨width, -, rfl⟩ := List.mem_map.1 h
    rfl
  · intro h
    obtain ⟨encrypted, width⟩ := t
    obtain rfl : encrypted = true := h
    exact List.mem_map_of_mem (by cases width <;> decide)

/-- The name of a type is read back. -/
theorem ofName?_name (t : ValueType) : ofName? t.name = some t := by
  obtain ⟨encrypted, width⟩ := t
  cases encrypted <;> cases width <;> rfl

/-- A word spells a type exactly if it is the name of the type. -/
theorem ofName?_eq_some_iff {word : String} {t : ValueType} :
    ofName? word = some t ↔ word = t.name := by
  constructor
  · intro h
    rw [ofName?] at h
    have hfound := List.find?_some h
    exact (beq_iff_eq.1 hfound).symm
  · rintro rfl
    exact ofName?_name t

/-- Two types of one name are the same type. -/
theorem name_injective {t u : ValueType} (h : t.name = u.name) : t = u := by
  have hread := ofName?_name t
  rw [h, ofName?_name u, Option.some.injEq] at hread
  exact hread.symm

/-- The name of a type consists of ASCII letters and digits. -/
theorem isAlphanum_of_mem_name (t : ValueType) : ∀ c ∈ t.name.toList, c.isAlphanum = true := by
  obtain ⟨encrypted, width⟩ := t
  cases encrypted <;> cases width <;> exact List.all_eq_true.1 (by decide)

/-- No other character stands in the name of a type. -/
theorem not_mem_name (t : ValueType) {c : Char} (hc : c.isAlphanum = false) : c ∉ t.name.toList :=
  fun hmem => Bool.false_ne_true (hc.symm.trans (t.isAlphanum_of_mem_name c hmem))

/-- A text that ends with the name of a type behind another character tells the type. -/
theorem eq_of_append_cons_name {c : Char} (hc : c.isAlphanum = false) {front front' : List Char}
    {t u : ValueType} (h : front ++ c :: t.name.toList = front' ++ c :: u.name.toList) : t = u := by
  have hnames := (append_cons_inj_of_not_mem (t.not_mem_name hc) (u.not_mem_name hc) h).2
  exact name_injective (String.toList_injective hnames)

/-- The name of a type is a word. -/
theorem isWord_name (t : ValueType) : IsWord t.name.toList := by
  apply isWord_of_isAlphanum _ t.isAlphanum_of_mem_name
  obtain ⟨encrypted, width⟩ := t
  cases encrypted <;> cases width <;> decide

end FheSolidity.ValueType
