import FheSolidity.Signature
import FheSolidity.Proofs.Text.Name
import FheSolidity.Proofs.ValueType

/-!
# How signatures are spelled

Apart from its name, the text of a signature is made of ASCII letters and digits, of spaces, and of
the fixed punctuation of a declaration. So neither a type nor a parameter brings in a comma, a
parenthesis or a line break, and a parameter list can be taken apart again at its commas.
-/

namespace FheSolidity

open Text

namespace Signature

/-- The text of a parameter: its type as declared, and its name. -/
def parameterText (t : ValueType) (i : Nat) : List Char :=
  t.declared.toList ++ ' ' :: (inputName i).toList

/-- A type as declared consists of ASCII letters, digits and spaces. -/
theorem mem_declared (t : ValueType) :
    ∀ c ∈ t.declared.toList, c.isAlphanum = true ∨ c = ' ' := by
  have hall : t.declared.toList.all (fun c => c.isAlphanum || c == ' ') = true := by
    obtain ⟨encrypted, width⟩ := t
    cases encrypted <;> cases width <;> decide
  intro c hc
  have h := List.all_eq_true.1 hall c hc
  rwa [Bool.or_eq_true, beq_iff_eq] at h

/-- The name of an input is a word and the digits of its position. -/
theorem toList_inputName (i : Nat) :
    (inputName i).toList = "input".toList ++ Nat.toDigits 10 i := by
  simp only [inputName, String.toList_append, Nat.toString_eq_repr, Nat.toList_repr]

/-- The name of an input consists of ASCII letters and digits. -/
theorem isAlphanum_of_mem_inputName {i : Nat} {c : Char} (h : c ∈ (inputName i).toList) :
    c.isAlphanum = true := by
  rw [toList_inputName, List.mem_append] at h
  rcases h with h | h
  · have hall : "input".toList.all Char.isAlphanum = true := by decide
    exact List.all_eq_true.1 hall c h
  · have hdigit := Nat.isDigit_of_mem_toDigits (by decide) (by decide) h
    rw [Char.isAlphanum, hdigit, Bool.or_true]

/-- The name of an input is an identifier. -/
theorem isIdentifier_inputName (i : Nat) : IsIdentifier (inputName i).toList := by
  rw [← isIdentifier_iff, toList_inputName]
  show (isNameStart 'i' && ("nput".toList ++ Nat.toDigits 10 i).all isIdentifierChar) = true
  rw [Bool.and_eq_true, List.all_eq_true]
  refine ⟨by decide, fun c hc => ?_⟩
  have halnum : c.isAlphanum = true := by
    apply isAlphanum_of_mem_inputName (i := i)
    rw [toList_inputName]
    exact List.mem_cons_of_mem 'i' hc
  rw [isIdentifierChar, halnum, Bool.true_or]

/-- The name of an input is a word. -/
theorem isWord_inputName (i : Nat) : IsWord (inputName i).toList := by
  apply isWord_of_isAlphanum _ fun c hc => isAlphanum_of_mem_inputName hc
  rw [toList_inputName]
  exact List.cons_ne_nil _ _

/-- A parameter consists of ASCII letters, digits and spaces. -/
theorem mem_parameterText {t : ValueType} {i : Nat} {c : Char} (h : c ∈ parameterText t i) :
    c.isAlphanum = true ∨ c = ' ' := by
  rw [parameterText, List.mem_append, List.mem_cons] at h
  rcases h with h | rfl | h
  · exact mem_declared t c h
  · exact .inr rfl
  · exact .inl (isAlphanum_of_mem_inputName h)

/-- Every piece behind a comma and a space may as well be said to start with the space. -/
theorem intercalate_comma_space (first : List Char) (others : List (List Char)) :
    [',', ' '].intercalate (first :: others) =
      [','].intercalate (first :: others.map fun piece => ' ' :: piece) := by
  induction others generalizing first with
  | nil => rfl
  | cons piece others ih =>
    have hrest : [',', ' '].intercalate (piece :: others) =
        [','].intercalate (piece :: others.map fun piece => ' ' :: piece) := ih piece
    rw [List.map_cons, List.intercalate_cons_cons, List.intercalate_cons_cons, hrest,
      List.intercalate_cons_cons_left]
    simp

/-- The parameter list of a signature has its parameters between commas. -/
theorem toList_parameterList (sig : Signature) :
    sig.parameterList.toList =
      [',', ' '].intercalate (sig.inputs.zipIdx.map fun (t, i) => parameterText t i) := by
  unfold parameterList
  rw [String.toList_intercalate, List.map_map]
  congr 1
  apply List.map_congr_left
  rintro ⟨t, i⟩ -
  show ((t.declared ++ " ") ++ inputName i).toList = parameterText t i
  rw [String.toList_append, String.toList_append, List.append_assoc]
  rfl

/-- A parameter list consists of ASCII letters, digits, spaces and commas. -/
theorem mem_parameterList {sig : Signature} {c : Char} (h : c ∈ sig.parameterList.toList) :
    c.isAlphanum = true ∨ c = ' ' ∨ c = ',' := by
  rw [toList_parameterList] at h
  rcases mem_of_mem_intercalate h with h | ⟨param, hparam, h⟩
  · rw [List.mem_cons, List.mem_singleton] at h
    exact .inr h.symm
  · obtain ⟨⟨t, i⟩, -, rfl⟩ := List.mem_map.1 hparam
    rcases mem_parameterText h with h | h
    · exact .inl h
    · exact .inr (.inl h)

end Signature

end FheSolidity
