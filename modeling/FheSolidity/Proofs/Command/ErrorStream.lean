import FheSolidity.Command.Run
import FheSolidity.Proofs.Text.Lines
import FheSolidity.Proofs.Text.Uppercase
import FheSolidity.Proofs.ValueType

/-!
# The lines of the error stream

What a run reports on the side is written to the error stream line by line. The lines can be told
apart there as long as no event carries a line break in a text that is logged as it is
(`lines_render_notes`): names and paths are logged like that, while quoted texts have their line
breaks escaped (`Event.unbroken_line`).
-/

namespace FheSolidity

open Text

namespace Text

/-- No digit of a number is a line break. -/
theorem newline_not_mem_toDigits (n : Nat) : '\n' ∉ Nat.toDigits 16 n := by
  have hdigit : ∀ d < 16, '\n' ≠ Nat.digitChar d := by decide
  induction n using Nat.strong_induction_on with
  | _ n ih =>
    rw [Nat.toDigits_eq_if (by decide)]
    split
    · rw [List.mem_singleton]
      exact hdigit n ‹_›
    · rw [List.mem_append, List.mem_singleton, not_or]
      exact ⟨ih (n / 16) (by omega), hdigit _ (Nat.mod_lt _ (by decide))⟩

/-- A quoted text is unbroken, whatever it is. -/
theorem unbroken_quoted (text : String) : Unbroken (quoted text) := by
  have hescape : ∀ c, '\n' ∉ escapeShown c := by
    intro c
    unfold escapeShown
    split_ifs with hnul htab hreturn hbreak hquote hbackslash hhidden
    any_goals decide
    · -- Only the digits of the code point are not fixed.
      intro hmem
      rw [List.mem_append, List.mem_append] at hmem
      rcases hmem with (hmem | hmem) | hmem
      · exact absurd hmem (by decide)
      · exact newline_not_mem_toDigits c.toNat hmem
      · exact absurd hmem (by decide)
    · rw [List.mem_singleton]
      exact fun h => hbreak h.symm
  unfold quoted
  rw [unbroken_append, unbroken_append]
  refine ⟨⟨by decide, ?_⟩, by decide⟩
  intro hmem
  rw [String.toList_ofList] at hmem
  obtain ⟨c, -, hmem⟩ := List.mem_flatMap.1 hmem
  exact hescape c hmem

end Text

/-! ## Events -/

namespace Event

/-- No name or path that the event carries has a line break. -/
def Unbroken : Event → Prop
  | noCandidates operation _ => Text.Unbroken operation
  | expanded operation _ => Text.Unbroken operation
  | untested .. => True
  | loaded path _ => Text.Unbroken path
  | wrote path _ => Text.Unbroken path

/-- What stands in a log line for a parameter is unbroken. -/
theorem unbroken_shown (param : Parameter) : Text.Unbroken param.shown := by
  cases param with
  | anyEncrypted => exact (by decide : Text.Unbroken "Encrypted")
  | anyPlaintext => exact (by decide : Text.Unbroken "Plaintext")
  | exactly type =>
    show Text.Unbroken ("Fixed(" ++ type.capitalized ++ ")")
    rw [unbroken_append, unbroken_append]
    refine ⟨⟨by decide, ?_⟩, by decide⟩
    exact not_mem_capitalize (by decide) (type.not_mem_name (by decide))

/-- Every value that an event carries is unbroken in its log line. -/
theorem unbroken_fields {event : Event} (h : event.Unbroken) {name : String} {value : Field}
    (hmem : (name, value) ∈ event.fields) :
    Text.Unbroken name ∧ Text.Unbroken value.shown := by
  cases event with
  | noCandidates operation parameter =>
    simp only [fields, List.mem_cons, List.not_mem_nil, or_false, Prod.mk.injEq] at hmem
    rcases hmem with ⟨rfl, rfl⟩ | ⟨rfl, rfl⟩
    · exact ⟨by decide, h⟩
    · exact ⟨by decide, unbroken_repr parameter⟩
  | expanded operation count =>
    simp only [fields, List.mem_cons, List.not_mem_nil, or_false, Prod.mk.injEq] at hmem
    rcases hmem with ⟨rfl, rfl⟩ | ⟨rfl, rfl⟩
    · exact ⟨by decide, h⟩
    · exact ⟨by decide, unbroken_repr count⟩
  | untested operation params =>
    simp only [fields, List.mem_cons, List.not_mem_nil, or_false, Prod.mk.injEq] at hmem
    rcases hmem with ⟨rfl, rfl⟩ | ⟨rfl, rfl⟩ | ⟨rfl, rfl⟩
    · exact ⟨by decide, unbroken_quoted operation⟩
    · exact ⟨by decide, unbroken_repr _⟩
    · have hparams : Text.Unbroken (", ".intercalate (params.map Parameter.shown)) := by
        apply unbroken_intercalate (by decide)
        intro text htext
        obtain ⟨param, -, rfl⟩ := List.mem_map.1 htext
        exact unbroken_shown param
      refine ⟨by decide, ?_⟩
      show Text.Unbroken ("[" ++ ", ".intercalate (params.map Parameter.shown) ++ "]")
      rw [unbroken_append, unbroken_append]
      exact ⟨⟨by decide, hparams⟩, by decide⟩
  | loaded path operations =>
    simp only [fields, List.mem_cons, List.not_mem_nil, or_false, Prod.mk.injEq] at hmem
    rcases hmem with ⟨rfl, rfl⟩ | ⟨rfl, rfl⟩
    · exact ⟨by decide, h⟩
    · exact ⟨by decide, unbroken_repr operations⟩
  | wrote path bytes =>
    simp only [fields, List.mem_cons, List.not_mem_nil, or_false, Prod.mk.injEq] at hmem
    rcases hmem with ⟨rfl, rfl⟩ | ⟨rfl, rfl⟩
    · exact ⟨by decide, h⟩
    · exact ⟨by decide, unbroken_repr bytes⟩

/-- An event is logged as one line if no name or path in it has a line break. -/
theorem unbroken_line {event : Event} (h : event.Unbroken) : Text.Unbroken event.line := by
  unfold line
  apply unbroken_intercalate (by decide)
  intro text htext
  rcases List.mem_cons.1 htext with rfl | htext
  · cases event.level <;> decide
  · rcases List.mem_cons.1 htext with rfl | htext
    · cases event <;> dsimp only [message] <;> decide
    · obtain ⟨⟨name, value⟩, hmem, rfl⟩ := List.mem_map.1 htext
      obtain ⟨hname, hvalue⟩ := unbroken_fields h hmem
      show Text.Unbroken (name ++ "=" ++ value.shown)
      rw [unbroken_append, unbroken_append]
      exact ⟨⟨hname, by decide⟩, hvalue⟩

/-- A log line starts with the name of a level. -/
theorem exists_line_eq (event : Event) :
    ∃ rest, event.line = event.level.label ++ rest := by
  unfold line
  rw [String.intercalate_cons_cons, String.append_assoc]
  exact ⟨_, rfl⟩

end Event

/-! ## Notes -/

namespace Note

/-- The line that a note is on the error stream, if it is admitted there. -/
def line? (filter : LogFilter) : Note → Option String
  | event e => if filter.admits e then some e.line else none
  | line text => some text

/-- The line of a note is unbroken. -/
def Unbroken : Note → Prop
  | event e => e.Unbroken
  | line text => Text.Unbroken text

/-- An unbroken note is an unbroken line. -/
theorem unbroken_of_line? {filter : LogFilter} {note : Note} (h : note.Unbroken) {text : String}
    (hline : note.line? filter = some text) : Text.Unbroken text := by
  cases note with
  | event e =>
    obtain ⟨-, hline⟩ := Option.ite_none_right_eq_some.1 hline
    obtain rfl := Option.some.inj hline
    exact Event.unbroken_line h
  | line text' =>
    obtain rfl := Option.some.inj hline
    exact h

/-- A note is rendered to its line and a line break, or to nothing. -/
theorem render_eq (filter : LogFilter) (note : Note) :
    note.render filter = ((note.line? filter).map (· ++ "\n")).getD "" := by
  cases note with
  | event e =>
    show (if filter.admits e then e.line ++ "\n" else "") =
      ((if filter.admits e then some e.line else none).map (· ++ "\n")).getD ""
    split <;> rfl
  | line text => rfl

end Note

/-- The lines of the error stream are those of the notes that are admitted there. -/
theorem lines_render_notes {notes : List Note} (h : ∀ note ∈ notes, note.Unbroken)
    (filter : LogFilter) :
    lines (String.join (notes.map (Note.render filter))).toList =
      (notes.filterMap (Note.line? filter)).map String.toList := by
  induction notes with
  | nil => rfl
  | cons note notes ih =>
    rw [List.forall_mem_cons] at h
    rw [List.map_cons, String.join_cons, Note.render_eq, List.filterMap_cons]
    cases hline : note.line? filter with
    | none =>
      rw [Option.map_none, Option.getD_none, String.empty_append]
      exact ih h.2
    | some text =>
      rw [Option.map_some, Option.getD_some, String.toList_append, String.toList_append,
        List.append_assoc]
      show lines (text.toList ++ '\n' :: (String.join _).toList) = _
      rw [lines_append_newline (Note.unbroken_of_line? h.1 hline), ih h.2]
      rfl

end FheSolidity
