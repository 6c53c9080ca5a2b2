import FheSolidity.Proofs.Text.Pieces

/-!
# Lines

A text is a list of lines, each of which ends at a line break. A text without a line break is
unbroken: put before a line break it is a line, and the lines of what follows stay what they are
(`lines_append_newline`).
-/

namespace FheSolidity.Text

/-- The lines of a text, without the line breaks that end them. The last line break of a text starts
no further line. -/
def lines : List Char → List (List Char)
  | [] => []
  | c :: text =>
    if c = '\n' then [] :: lines text
    else
      match lines text with
      | [] => [[c]]
      | first :: others => (c :: first) :: others

/-- An unbroken text before a line break is a line. -/
theorem lines_append_newline {line : List Char} (h : '\n' ∉ line) (rest : List Char) :
    lines (line ++ '\n' :: rest) = line :: lines rest := by
  induction line with
  | nil => rw [List.nil_append, lines, if_pos rfl]
  | cons c line ih =>
    rw [List.mem_cons, not_or] at h
    rw [List.cons_append, lines, if_neg (Ne.symm h.1), ih h.2]

/-- A text of at least one character has a line. -/
theorem lines_ne_nil {text : List Char} (h : text ≠ []) : lines text ≠ [] := by
  obtain ⟨c, text, rfl⟩ := List.exists_cons_of_ne_nil h
  rw [lines]
  split
  · exact List.cons_ne_nil _ _
  · split
    · exact List.cons_ne_nil _ _
    · exact List.cons_ne_nil _ _

/-- A text is taken apart at a line break into the lines before and behind it. -/
theorem lines_append_newline_append (front rest : List Char) :
    lines (front ++ '\n' :: rest) = lines (front ++ ['\n']) ++ lines rest := by
  induction front with
  | nil => rw [List.nil_append, List.nil_append, lines, lines, if_pos rfl, if_pos rfl]; rfl
  | cons c front ih =>
    rw [List.cons_append, List.cons_append, lines, lines]
    split
    · rw [ih]; rfl
    · have hne : front ++ ['\n'] ≠ [] := List.append_ne_nil_of_right_ne_nil _ (List.cons_ne_nil _ _)
      obtain ⟨first, others, hlines⟩ := List.exists_cons_of_ne_nil (lines_ne_nil hne)
      rw [ih, hlines]
      rfl

/-- A text without a line break. -/
def Unbroken (text : String) : Prop :=
  '\n' ∉ text.toList

/-- Whether a text has a line break can be found out. -/
instance : DecidablePred Unbroken :=
  fun text => inferInstanceAs (Decidable ('\n' ∉ text.toList))

/-- Texts put together are unbroken if each of them is. -/
@[simp] theorem unbroken_append {first second : String} :
    Unbroken (first ++ second) ↔ Unbroken first ∧ Unbroken second := by
  unfold Unbroken
  rw [String.toList_append, List.mem_append, not_or]

/-- Texts put together between unbroken separators are unbroken if each of them is. -/
theorem unbroken_intercalate {separator : String} (hseparator : Unbroken separator)
    {texts : List String} (h : ∀ text ∈ texts, Unbroken text) :
    Unbroken (separator.intercalate texts) := by
  intro hmem
  rw [String.toList_intercalate] at hmem
  rcases mem_of_mem_intercalate hmem with hmem | ⟨piece, hpiece, hmem⟩
  · exact hseparator hmem
  · obtain ⟨text, htext, rfl⟩ := List.mem_map.1 hpiece
    exact h text htext hmem

/-- A text of ASCII letters, digits, spaces and commas is unbroken. -/
theorem unbroken_of_forall {text : String}
    (h : ∀ c ∈ text.toList, c.isAlphanum = true ∨ c = ' ' ∨ c = ',') : Unbroken text := by
  intro hmem
  exact absurd (h _ hmem) (by decide)

/-- A number is unbroken. -/
@[simp] theorem unbroken_repr (n : Nat) : Unbroken n.repr := by
  intro hmem
  rw [Nat.toList_repr] at hmem
  exact absurd (Nat.isDigit_of_mem_toDigits (by decide) (by decide) hmem) (by decide)

end FheSolidity.Text
