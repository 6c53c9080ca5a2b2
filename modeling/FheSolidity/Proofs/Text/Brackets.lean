import FheSolidity.Proofs.Text.Pieces
import FheSolidity.Proofs.Text.Uppercase

/-!
# Brackets

A text is read from its start with a stack of the closing brackets that are still to come. It is
paired if every closing bracket is the one that comes next and none is left at the end
(`Paired`). Whatever is open before a paired text is open behind it (`Paired.openAfter`), so
paired texts can be put together and put between brackets, and a text without brackets can be
passed over.
-/

namespace FheSolidity.Text

/-! ## Reading -/

/-- The characters that open or close something. -/
def brackets : List Char :=
  ['(', ')', '[', ']', '\x7b', '\x7d']

/-- The bracket that closes what an opening one opens. -/
def closerOf? (c : Char) : Option Char :=
  if c = '(' then some ')' else if c = '[' then some ']' else if c = '\x7b' then some '\x7d'
  else none

/-- The brackets that are to be closed after one more character, the innermost first, unless the
character closes something else or nothing. -/
def openStep (pending : List Char) (c : Char) : Option (List Char) :=
  match closerOf? c with
  | some closer => some (closer :: pending)
  | none =>
    if brackets.contains c then
      match pending with
      | [] => none
      | next :: others => if c = next then some others else none
    else some pending

/-- The brackets that are to be closed after a text, the innermost first, if it never closes
something else or nothing. -/
def openAfter (pending text : List Char) : Option (List Char) :=
  text.foldlM openStep pending

/-- A text is read character by character. -/
theorem openAfter_cons (pending : List Char) (c : Char) (text : List Char) :
    openAfter pending (c :: text) =
      (openStep pending c).bind fun pending => openAfter pending text :=
  List.foldlM_cons

/-- A text is read part by part. -/
@[simp] theorem openAfter_append (pending first second : List Char) :
    openAfter pending (first ++ second) =
      (openAfter pending first).bind fun pending => openAfter pending second :=
  List.foldlM_append

/-- What is open further out does not matter to a character that closes nothing of it. -/
theorem openStep_append_pending {pending left : List Char} {c : Char}
    (h : openStep pending c = some left) (outer : List Char) :
    openStep (pending ++ outer) c = some (left ++ outer) := by
  unfold openStep at h ⊢
  cases hcloser : closerOf? c with
  | some closer =>
    rw [hcloser] at h
    dsimp only at h ⊢
    rw [← Option.some.inj h]
    rfl
  | none =>
    rw [hcloser] at h
    dsimp only at h ⊢
    split at h
    · next hbracket =>
      rw [if_pos hbracket]
      -- A closing bracket takes the innermost one, which is not among those further out.
      cases pending with
      | nil => exact nomatch h
      | cons next others =>
        dsimp only [List.cons_append] at h ⊢
        split at h
        · next hc => rw [if_pos hc, Option.some.inj h]
        · exact nomatch h
    · next hbracket => rw [if_neg hbracket, Option.some.inj h]

/-- What is open further out does not matter to a text that closes nothing of it. -/
theorem openAfter_append_pending {pending left text : List Char}
    (h : openAfter pending text = some left) (outer : List Char) :
    openAfter (pending ++ outer) text = some (left ++ outer) := by
  induction text generalizing pending with
  | nil =>
    rw [Option.some.inj h]
    rfl
  | cons c text ih =>
    rw [openAfter_cons] at h ⊢
    obtain ⟨between, hc, h⟩ := Option.bind_eq_some_iff.1 h
    rw [openStep_append_pending hc, Option.bind_some, ih h]

/-! ## Paired texts -/

/-- Every closing bracket of a text closes the last one that is open, and none stays open. -/
def Paired (text : String) : Prop :=
  openAfter [] text.toList = some []

/-- Whether a text is paired can be found out. -/
instance : DecidablePred Paired :=
  fun text => inferInstanceAs (Decidable (openAfter [] text.toList = some []))

/-- A paired text leaves open what is open before it. -/
theorem Paired.openAfter {text : String} (h : Paired text) (pending : List Char) :
    Text.openAfter pending text.toList = some pending :=
  openAfter_append_pending h pending

/-! Literals are turned into their characters before they are read, which costs less than to take
them apart. -/

/-- A text is read as its characters are. -/
theorem openAfter_ofList {pending text left : List Char} (h : openAfter pending text = some left) :
    openAfter pending (String.ofList text).toList = some left := by
  rw [String.toList_ofList, h]

/-- A text is paired if its characters are. -/
theorem paired_ofList {text : List Char} (h : openAfter [] text = some []) :
    Paired (String.ofList text) :=
  openAfter_ofList h

/-- Two texts put together are paired if their characters are. -/
theorem paired_ofList_append {first second : List Char}
    (h : openAfter [] (first ++ second) = some []) :
    Paired (String.ofList first ++ String.ofList second) := by
  rw [← String.ofList_append]
  exact paired_ofList h

/-- Paired texts put together are paired. -/
theorem Paired.append {first second : String} (hfirst : Paired first)
    (hsecond : Paired second) : Paired (first ++ second) := by
  unfold Paired
  rw [String.toList_append, openAfter_append, hfirst.openAfter, Option.bind_some,
    hsecond.openAfter]

/-- A line break at the end of a text opens and closes nothing. -/
theorem paired_append_newline {text : String} : Paired (text ++ "\n") ↔ Paired text := by
  unfold Paired
  rw [String.toList_append, openAfter_append]
  cases openAfter [] text.toList with
  | none => exact Iff.rfl
  | some pending => exact Iff.rfl

/-- Texts of a list put together are paired if each of them is. -/
theorem paired_join {texts : List String} (h : ∀ text ∈ texts, Paired text) :
    Paired (String.join texts) := by
  induction texts with
  | nil => rfl
  | cons text texts ih =>
    rw [List.forall_mem_cons] at h
    rw [String.join_cons]
    exact h.1.append (ih h.2)

/-- Texts put together between paired separators are paired if each of them is. -/
theorem paired_intercalate {separator : String} (hseparator : Paired separator)
    {texts : List String} (h : ∀ text ∈ texts, Paired text) :
    Paired (separator.intercalate texts) := by
  induction texts with
  | nil => rw [String.intercalate_nil]; rfl
  | cons text texts ih =>
    rw [List.forall_mem_cons] at h
    cases texts with
    | nil =>
      rw [String.intercalate_singleton]
      exact h.1
    | cons next texts =>
      rw [String.intercalate_cons_cons]
      exact (h.1.append hseparator).append (ih h.2)

/-! ## Texts without brackets -/

/-- A text has no bracket of any kind. -/
def Unbracketed (text : String) : Prop :=
  ∀ c ∈ brackets, c ∉ text.toList

/-- Whether a text has a bracket can be found out. -/
instance : DecidablePred Unbracketed :=
  fun text => List.decidableBAll (fun c => c ∉ text.toList) brackets

/-- Another character than a bracket changes nothing of what is open. -/
theorem openStep_of_not_mem {c : Char} (h : c ∉ brackets) (pending : List Char) :
    openStep pending c = some pending := by
  have hne : ∀ bracket ∈ brackets, c ≠ bracket := by
    rintro bracket hbracket rfl
    exact h hbracket
  have hcloser : closerOf? c = none := by
    unfold closerOf?
    rw [if_neg (hne _ (by decide)), if_neg (hne _ (by decide)), if_neg (hne _ (by decide))]
  unfold openStep
  rw [hcloser]
  dsimp only
  rw [if_neg (by rw [List.contains_iff_mem]; exact h)]

/-- Characters other than brackets leave open what is open before them. -/
theorem openAfter_of_forall_not_mem {text : List Char} (h : ∀ c ∈ text, c ∉ brackets)
    (pending : List Char) : openAfter pending text = some pending := by
  induction text with
  | nil => rfl
  | cons c text ih =>
    rw [List.forall_mem_cons] at h
    rw [openAfter_cons, openStep_of_not_mem h.1, Option.bind_some]
    exact ih h.2

/-- A text without brackets is paired. -/
theorem Unbracketed.paired {text : String} (h : Unbracketed text) : Paired text :=
  openAfter_of_forall_not_mem (fun c hc hbracket => h c hbracket hc) []

/-- A text of letters and digits has no brackets. -/
theorem unbracketed_of_isAlphanum {text : String} (h : ∀ c ∈ text.toList, c.isAlphanum = true) :
    Unbracketed text := by
  have hbrackets : brackets.all (fun c => !c.isAlphanum) = true := by decide
  intro c hc hmem
  have hc := List.all_eq_true.1 hbrackets c hc
  rw [h c hmem] at hc
  exact nomatch hc

/-- A number has no brackets. -/
theorem unbracketed_repr (n : Nat) : Unbracketed n.repr := by
  apply unbracketed_of_isAlphanum
  intro c hc
  rw [Nat.toList_repr] at hc
  rw [Char.isAlphanum, Nat.isDigit_of_mem_toDigits (by decide) (by decide) hc, Bool.or_true]

/-- Texts put together have no brackets if none of them has one. -/
theorem Unbracketed.append {first second : String} (hfirst : Unbracketed first)
    (hsecond : Unbracketed second) : Unbracketed (first ++ second) := by
  intro c hc
  rw [String.toList_append, List.mem_append, not_or]
  exact ⟨hfirst c hc, hsecond c hc⟩

/-- A name without brackets gains none when it is capitalized. -/
theorem Unbracketed.capitalize {name : String} (h : Unbracketed name) :
    Unbracketed (capitalize name) := by
  have hcapital : brackets.all (fun c => !IsCapital c.toNat) = true := by decide
  intro c hc
  exact not_mem_capitalize (by simpa using List.all_eq_true.1 hcapital c hc) (h c hc)

end FheSolidity.Text
