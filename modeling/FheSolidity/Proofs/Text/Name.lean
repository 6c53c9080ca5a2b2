import FheSolidity.Text.Name
import FheSolidity.Proofs.Text.Pieces

/-!
# Which texts are names

The two kinds of name, said by character ranges: `IsFunctionName` and `IsIdentifier` both start with
an ASCII letter or an underscore, and go on with word characters or with ASCII letters, digits and
underscores. The functions that test for them decide exactly this. A word character is no
parenthesis, so a function's name ends before its parameter list.
-/

namespace FheSolidity.Text

/-- The ASCII letters and the underscore. -/
def NameStart (c : Char) : Prop :=
  ('A' ≤ c ∧ c ≤ 'Z') ∨ ('a' ≤ c ∧ c ≤ 'z') ∨ c = '_'

/-- One ASCII letter or underscore, and then any word characters. -/
def IsFunctionName (name : List Char) : Prop :=
  ∃ c rest, name = c :: rest ∧ NameStart c ∧ ∀ d ∈ rest, isWordChar d = true

/-- One ASCII letter or underscore, and then such characters and ASCII digits. -/
def IsIdentifier (name : List Char) : Prop :=
  ∃ c rest, name = c :: rest ∧ NameStart c ∧ ∀ d ∈ rest, NameStart d ∨ ('0' ≤ d ∧ d ≤ '9')

/-- A name can start with the ASCII letters and the underscore. -/
theorem isNameStart_iff {c : Char} : isNameStart c = true ↔ NameStart c := by
  rw [isNameStart, NameStart, Char.isAlpha, Char.isUpper, Char.isLower]
  simp only [Bool.or_eq_true, Bool.and_eq_true, decide_eq_true_eq, beq_iff_eq, ge_iff_le,
    Char.le_def, or_assoc]

/-- An identifier can go on with what it can start with and with the ASCII digits. -/
theorem isIdentifierChar_iff {c : Char} :
    isIdentifierChar c = true ↔ NameStart c ∨ ('0' ≤ c ∧ c ≤ '9') := by
  rw [← isNameStart_iff, isIdentifierChar, isNameStart, Char.isAlphanum, Char.isDigit]
  simp only [Bool.or_eq_true, Bool.and_eq_true, decide_eq_true_eq, beq_iff_eq, ge_iff_le,
    Char.le_def, or_assoc, or_comm, or_left_comm]

/-- A text that is not empty starts a name and goes on with some characters exactly if its first
character and the others do. -/
theorem exists_nameStart_cons_iff {p : Char → Prop} {c : Char} {rest : List Char} :
    (∃ d ds, c :: rest = d :: ds ∧ NameStart d ∧ ∀ e ∈ ds, p e) ↔
      NameStart c ∧ ∀ e ∈ rest, p e := by
  constructor
  · intro h
    obtain ⟨d, ds, h, hd, hds⟩ := h
    obtain ⟨rfl, rfl⟩ := List.cons.inj h
    exact ⟨hd, hds⟩
  · intro h
    obtain ⟨hc, hrest⟩ := h
    exact ⟨c, rest, rfl, hc, hrest⟩

/-- Function names are recognized as such. -/
theorem isFunctionName_iff {name : List Char} :
    isFunctionName name = true ↔ IsFunctionName name := by
  cases name with
  | nil => simp [isFunctionName, IsFunctionName]
  | cons c rest =>
    rw [isFunctionName, Bool.and_eq_true, isNameStart_iff, List.all_eq_true, IsFunctionName,
      exists_nameStart_cons_iff]

/-- Identifiers are recognized as such. -/
theorem isIdentifier_iff {name : List Char} : isIdentifier name = true ↔ IsIdentifier name := by
  cases name with
  | nil => simp [isIdentifier, IsIdentifier]
  | cons c rest =>
    rw [isIdentifier, Bool.and_eq_true, isNameStart_iff, List.all_eq_true, IsIdentifier,
      exists_nameStart_cons_iff]
    simp only [isIdentifierChar_iff]

/-- ASCII letters and digits are not blank. -/
theorem isBlank_of_isAlphanum {c : Char} (h : c.isAlphanum = true) : isBlank c = false := by
  simp only [Char.isAlphanum, Char.isAlpha, Char.isUpper, Char.isLower, Char.isDigit,
    Bool.or_eq_true, Bool.and_eq_true, decide_eq_true_eq, UInt32.le_iff_toNat_le, ge_iff_le] at h
  -- The ranges of the class, and below the code points of the blanks, all as numbers.
  change ((65 ≤ c.toNat ∧ c.toNat ≤ 90) ∨ (97 ≤ c.toNat ∧ c.toNat ≤ 122)) ∨
    (48 ≤ c.toNat ∧ c.toNat ≤ 57) at h
  unfold isBlank blanks CodePoints.contains
  simp only [List.any_cons, List.any_nil, Bool.or_eq_false_iff, Bool.and_eq_false_iff,
    decide_eq_false_iff_not, and_true]
  omega

/-- A text of ASCII letters and digits is a word if it is not empty. -/
theorem isWord_of_isAlphanum {text : List Char} (hne : text ≠ [])
    (h : ∀ c ∈ text, c.isAlphanum = true) : IsWord text :=
  ⟨hne, fun c hc => isBlank_of_isAlphanum (h c hc)⟩

/-- Characters between the ends of one of the intervals belong to the set. -/
theorem CodePoints.contains_of_mem {points : CodePoints} {first last : Nat} {c : Char}
    (hmem : (first, last) ∈ points) (hfirst : first ≤ c.toNat) (hlast : c.toNat ≤ last) :
    points.contains c = true := by
  rw [CodePoints.contains, List.any_eq_true]
  refine ⟨(first, last), hmem, ?_⟩
  simp [hfirst, hlast]

/-- The ASCII letters and the underscore are word characters. -/
theorem isWordChar_of_nameStart {c : Char} (h : NameStart c) : isWordChar c = true := by
  -- The capital letters are the second interval of the word characters, the small ones the fourth.
  rcases h with ⟨hfirst, hlast⟩ | ⟨hfirst, hlast⟩ | rfl
  · exact CodePoints.contains_of_mem (.tail _ (.head _)) hfirst hlast
  · exact CodePoints.contains_of_mem (.tail _ (.tail _ (.tail _ (.head _)))) hfirst hlast
  · decide +kernel

/-- All characters of a function's name are word characters. -/
theorem IsFunctionName.all_isWordChar {name : List Char} (h : IsFunctionName name) :
    ∀ c ∈ name, isWordChar c = true := by
  obtain ⟨c, rest, rfl, hc, hrest⟩ := h
  intro d hd
  rcases List.mem_cons.1 hd with rfl | hd
  · exact isWordChar_of_nameStart hc
  · exact hrest d hd

/-- The opening parenthesis is not a word character. -/
theorem isWordChar_paren : isWordChar '(' = false := by
  decide +kernel

end FheSolidity.Text
