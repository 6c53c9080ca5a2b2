import Mathlib
import FheSolidity.Text.Pieces

/-!
# What taking a text apart finds

Each function that takes a text apart solves an equation on the text. `after?` finds what has to be
put behind a beginning (`after?_eq_some_iff`), `pieces` is the library's split at separators
(`pieces_eq_splitOnP`), and trimming takes blanks off the two ends and nothing else
(`exists_trim`, `trim_append`). `Spaced` says which words a text holds and in which order, and
`words_eq_iff` that `words` finds exactly these.
-/

namespace FheSolidity.Text

/-! ## Beginnings -/

/-- What comes after a beginning is what has to be put behind it to give the text. -/
theorem after?_eq_some_iff {beginning text rest : List Char} :
    after? beginning text = some rest ↔ text = beginning ++ rest := by
  induction beginning generalizing text with
  | nil => rw [after?, Option.some.injEq, List.nil_append]
  | cons b beginning ih =>
    cases text with
    | nil => simp [after?]
    | cons c text =>
      rw [after?, List.cons_append, List.cons.injEq]
      split
      · next h => rw [ih, h]; simp
      · next h => simp [Ne.symm h]

/-- Elements of a class before one that is not of the class are all that `takeWhile` takes. -/
theorem takeWhile_append_cons {α : Type} {p : α → Bool} {front rest : List α} {c : α}
    (hfront : ∀ a ∈ front, p a = true) (hc : p c = false) :
    (front ++ c :: rest).takeWhile p = front := by
  rw [List.takeWhile_append_of_pos hfront, List.takeWhile_cons_of_neg (by rw [hc]; simp),
    List.append_nil]

/-- Elements of a class before one that is not of the class are all that `dropWhile` drops. -/
theorem dropWhile_append_cons {α : Type} {p : α → Bool} {front rest : List α} {c : α}
    (hfront : ∀ a ∈ front, p a = true) (hc : p c = false) :
    (front ++ c :: rest).dropWhile p = c :: rest := by
  rw [List.dropWhile_append_of_pos hfront, List.dropWhile_cons_of_neg (by rw [hc]; simp)]

/-- A text has one place only at which a character stands for the last time. -/
theorem append_cons_inj_of_not_mem {c : Char} {front front' rest rest' : List Char}
    (hrest : c ∉ rest) (hrest' : c ∉ rest') (h : front ++ c :: rest = front' ++ c :: rest') :
    front = front' ∧ rest = rest' := by
  -- Read from the back, both texts are taken apart where the character comes first.
  have key := congrArg List.reverse h
  rw [List.reverse_append, List.reverse_append, List.reverse_cons, List.reverse_cons,
    List.append_assoc, List.append_assoc, List.singleton_append, List.singleton_append] at key
  have hlast : ∀ {r : List Char}, c ∉ r → ∀ a ∈ r.reverse, (a != c) = true := by
    intro r hr a ha
    rw [bne_iff_ne]
    rintro rfl
    exact hr (List.mem_reverse.1 ha)
  have htake := congrArg (List.takeWhile (· != c)) key
  have hdrop := congrArg (List.dropWhile (· != c)) key
  rw [takeWhile_append_cons (hlast hrest) (by simp),
    takeWhile_append_cons (hlast hrest') (by simp)] at htake
  rw [dropWhile_append_cons (hlast hrest) (by simp),
    dropWhile_append_cons (hlast hrest') (by simp)] at hdrop
  exact ⟨List.reverse_inj.1 (List.cons.inj hdrop).2, List.reverse_inj.1 htake⟩

/-! ## Pieces -/

/-- The pieces of a text are what the library's split at the separators gives. -/
theorem pieces_eq_splitOnP (separates : Char → Bool) (text : List Char) :
    pieces separates text = text.splitOnP separates := by
  induction text with
  | nil => rfl
  | cons c rest ih =>
    rw [pieces, List.splitOnP_cons_eq_if_modifyHead, ih]
    split
    · rfl
    · cases h : rest.splitOnP separates with
      | nil => exact absurd h (List.splitOnP_ne_nil separates rest)
      | cons piece others => rfl

/-- Every character of pieces put together between separators comes from a separator or a piece. -/
theorem mem_of_mem_intercalate {separator : List Char} {pieces : List (List Char)} {c : Char}
    (h : c ∈ separator.intercalate pieces) : c ∈ separator ∨ ∃ piece ∈ pieces, c ∈ piece := by
  induction pieces with
  | nil => exact absurd h List.not_mem_nil
  | cons piece pieces ih =>
    cases pieces with
    | nil =>
      rw [List.intercalate_singleton] at h
      exact .inr ⟨piece, List.mem_cons_self, h⟩
    | cons next pieces =>
      rw [List.intercalate_cons_cons, List.append_assoc, List.mem_append, List.mem_append] at h
      rcases h with h | h | h
      · exact .inr ⟨piece, List.mem_cons_self, h⟩
      · exact .inl h
      · rcases ih h with h | ⟨later, hlater, h⟩
        · exact .inl h
        · exact .inr ⟨later, List.mem_cons_of_mem _ hlater, h⟩

/-! ## Words -/

/-- A word is a text that is not empty and has no blanks. -/
def IsWord (word : List Char) : Prop :=
  word ≠ [] ∧ ∀ c ∈ word, isBlank c = false

/-- A text consists of some words in this order, with blanks around them and at least one blank
between two of them. -/
inductive Spaced : List (List Char) → List Char → Prop
  /-- The empty text has no words. -/
  | nil : Spaced [] []
  /-- A blank at the front adds no word. -/
  | blank {c : Char} {ws : List (List Char)} {text : List Char} (hc : isBlank c = true)
    (h : Spaced ws text) : Spaced ws (c :: text)
  /-- A word may end the text. -/
  | last {word : List Char} (hword : IsWord word) : Spaced [word] word
  /-- A word before a blank is the first word. -/
  | word {word : List Char} {c : Char} {ws : List (List Char)} {text : List Char}
    (hword : IsWord word) (hc : isBlank c = true) (h : Spaced ws text) :
    Spaced (word :: ws) (word ++ c :: text)

/-- A blank separates the words before it from those after it. -/
theorem words_append_cons {c : Char} (hc : isBlank c = true) (front rest : List Char) :
    words (front ++ c :: rest) = words front ++ words rest := by
  rw [words, words, words, pieces_eq_splitOnP, pieces_eq_splitOnP, pieces_eq_splitOnP,
    List.splitOnP_append_cons front rest hc, List.filter_append]

/-- A word alone is its only word. -/
theorem words_of_isWord {word : List Char} (hword : IsWord word) : words word = [word] := by
  rw [words, pieces_eq_splitOnP, List.splitOnP_eq_singleton hword.2]
  simp [hword.1]

/-- The words of a text are those that it consists of. -/
theorem words_of_spaced {ws : List (List Char)} {text : List Char} (h : Spaced ws text) :
    words text = ws := by
  induction h with
  | nil => rfl
  | blank hc _ ih => rw [← List.nil_append (_ :: _), words_append_cons hc, ih]; rfl
  | last hword => exact words_of_isWord hword
  | word hword hc _ ih => rw [words_append_cons hc, words_of_isWord hword, ih]; rfl

/-- Every text consists of its words. -/
theorem spaced_words (text : List Char) : Spaced (words text) text := by
  have hblank : ∀ a ∈ text.takeWhile (!isBlank ·), isBlank a = false := by
    intro a ha
    simpa using List.all_eq_true.1 List.all_takeWhile a ha
  have hsplit : text.takeWhile (!isBlank ·) ++ text.dropWhile (!isBlank ·) = text :=
    List.takeWhile_append_dropWhile
  cases hrest : text.dropWhile (!isBlank ·) with
  | nil =>
    -- No blank is left: the text is empty or one word.
    rw [hrest, List.append_nil] at hsplit
    rw [hsplit] at hblank
    by_cases hnil : text = []
    · rw [hnil]; exact Spaced.nil
    · rw [words_of_isWord ⟨hnil, hblank⟩]
      exact Spaced.last ⟨hnil, hblank⟩
  | cons c rest =>
    -- The text is split at its first blank, and what is behind it is shorter.
    have hc : isBlank c = true := by
      have := List.head?_dropWhile_not (!isBlank ·) text
      rw [hrest] at this
      simpa using this
    have hlt : rest.length < text.length := by
      rw [← hsplit, hrest, List.length_append, List.length_cons]
      omega
    have ih := spaced_words rest
    rw [hrest] at hsplit
    by_cases hnil : text.takeWhile (!isBlank ·) = []
    · rw [hnil, List.nil_append] at hsplit
      rw [← hsplit, ← List.nil_append (c :: rest), words_append_cons hc]
      exact Spaced.blank hc ih
    · rw [← hsplit, words_append_cons hc, words_of_isWord ⟨hnil, hblank⟩]
      exact Spaced.word ⟨hnil, hblank⟩ hc ih
termination_by text.length

/-- A text has these words exactly if it consists of them. -/
theorem words_eq_iff {ws : List (List Char)} {text : List Char} :
    words text = ws ↔ Spaced ws text :=
  ⟨fun h => h ▸ spaced_words text, words_of_spaced⟩

/-! ## Trimming -/

/-- A text is what trimming leaves of it, between blanks. -/
theorem exists_trim (text : List Char) :
    ∃ before after, (∀ c ∈ before, isBlank c = true) ∧ (∀ c ∈ after, isBlank c = true) ∧
      text = before ++ trim text ++ after := by
  refine ⟨text.takeWhile isBlank, ((trimStart text).reverse.takeWhile isBlank).reverse, ?_, ?_, ?_⟩
  · exact List.all_eq_true.1 List.all_takeWhile
  · intro c hc
    exact List.all_eq_true.1 List.all_takeWhile c (List.mem_reverse.1 hc)
  · rw [trim, trimEnd, List.append_assoc, ← List.reverse_append, List.takeWhile_append_dropWhile,
      List.reverse_reverse, trimStart, List.takeWhile_append_dropWhile]

/-- Blanks behind the last other character of a text are trimmed off its end. -/
theorem trimEnd_append_cons {front after : List Char} {last : Char}
    (hafter : ∀ c ∈ after, isBlank c = true) (hlast : isBlank last = false) :
    trimEnd (front ++ last :: after) = front ++ [last] := by
  have hrev : ∀ c ∈ after.reverse, isBlank c = true := fun c hc =>
    hafter c (List.mem_reverse.1 hc)
  rw [trimEnd, List.reverse_append, List.reverse_cons, List.append_assoc, List.singleton_append,
    dropWhile_append_cons hrev hlast, List.reverse_cons, List.reverse_reverse]

/-- Blanks around a text that neither starts nor ends with a blank are trimmed off. -/
theorem trim_append {before after core : List Char} {first last : Char}
    (hbefore : ∀ c ∈ before, isBlank c = true) (hafter : ∀ c ∈ after, isBlank c = true)
    (hfirst : isBlank first = false) (hlast : isBlank last = false) :
    trim (before ++ (first :: core ++ [last]) ++ after) = first :: core ++ [last] := by
  have hstart : trimStart (before ++ (first :: core ++ [last]) ++ after) =
      first :: core ++ [last] ++ after := by
    rw [trimStart, List.append_assoc, List.cons_append, List.cons_append,
      dropWhile_append_cons hbefore hfirst]
  rw [trim, hstart, List.append_assoc, List.singleton_append, trimEnd_append_cons hafter hlast]

end FheSolidity.Text
