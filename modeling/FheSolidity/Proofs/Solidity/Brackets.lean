import FheSolidity.Proofs.Signature
import FheSolidity.Proofs.Solidity.Code
import FheSolidity.Proofs.Text.Brackets
import FheSolidity.Solidity.Function

/-!
# Brackets in functions

Source is read for its brackets line by line, whatever its indentation (`Code.openAfter_render`). A
block is paired if its head and what is in it are (`Code.paired_block`). So the function of a
signature is paired if the name of the signature is (`Signature.paired_functionCode`).
-/

namespace FheSolidity

open Text

/-! ## Source -/

namespace Code

variable {first second code body : Code} {text head : String}

/-- The brackets that are to be closed after some lines of source, the innermost first, if the lines
never close something else or nothing. -/
def openAfter (pending : List Char) (code : Code) : Option (List Char) :=
  code.foldlM (fun pending l => Text.openAfter pending l.text.toList) pending

/-- Source is read part by part. -/
@[simp] theorem openAfter_append (pending : List Char) (first second : Code) :
    openAfter pending (first ++ second) =
      (openAfter pending first).bind fun pending => openAfter pending second :=
  List.foldlM_append

/-- Indentation opens and closes nothing. -/
@[simp] theorem openAfter_indent (pending : List Char) (code : Code) :
    openAfter pending (indent code) = openAfter pending code :=
  List.foldlM_map

/-- A line is read as its text. -/
@[simp] theorem openAfter_line (pending : List Char) (text : String) :
    openAfter pending (line text) = Text.openAfter pending text.toList := by
  show (Text.openAfter pending text.toList).bind some = _
  cases Text.openAfter pending text.toList <;> rfl

/-- An empty line opens and closes nothing. -/
@[simp] theorem openAfter_blank (pending : List Char) : openAfter pending blank = some pending :=
  rfl

/-- The spaces before a line open and close nothing. -/
theorem openAfter_chars (pending : List Char) (l : Line) :
    Text.openAfter pending l.chars = Text.openAfter pending l.text.toList := by
  unfold Line.chars
  split
  · next hempty =>
    rw [hempty]
    rfl
  · have hspaces : ∀ c ∈ List.replicate (4 * l.depth) ' ', c ∉ brackets := by
      intro c hc
      rw [List.eq_of_mem_replicate hc]
      decide
    rw [Text.openAfter_append, openAfter_of_forall_not_mem hspaces, Option.bind_some]

/-- The text of rendered source is read as its lines are. -/
theorem openAfter_render (pending : List Char) (code : Code) :
    Text.openAfter pending code.render.toList = openAfter pending code := by
  induction code generalizing pending with
  | nil => rfl
  | cons l code ih =>
    rw [toList_render_cons, Text.openAfter_append, openAfter_chars]
    show _ = (Text.openAfter pending l.text.toList).bind fun pending => openAfter pending code
    congr 1
    funext pending
    rw [openAfter_cons, openStep_of_not_mem (by decide), Option.bind_some, ih]

/-- Every closing bracket in some lines closes the last one that is open, and none stays open. -/
def Paired (code : Code) : Prop :=
  openAfter [] code = some []

/-- Rendered source is paired if its lines are. -/
theorem paired_render : Text.Paired code.render ↔ code.Paired := by
  unfold Text.Paired Paired
  rw [openAfter_render]

/-- Paired source leaves open what is open before it. -/
theorem Paired.openAfter (h : code.Paired) (pending : List Char) :
    Code.openAfter pending code = some pending := by
  rw [← openAfter_render]
  exact (paired_render.2 h).openAfter pending

/-- Paired source put together is paired. -/
theorem Paired.append (hfirst : first.Paired) (hsecond : second.Paired) :
    Code.Paired (first ++ second) := by
  unfold Paired
  rw [openAfter_append, hfirst.openAfter, Option.bind_some, hsecond.openAfter]

/-- Source put together from a list is paired if all of it is. -/
theorem paired_flatMap {α : Type} {list : List α} {f : α → Code}
    (h : ∀ a ∈ list, (f a).Paired) : Code.Paired (list.flatMap f) := by
  induction list with
  | nil => rfl
  | cons a list ih =>
    rw [List.forall_mem_cons] at h
    rw [List.flatMap_cons]
    exact h.1.append (ih h.2)

/-- A line is paired if its text is. -/
theorem paired_line (h : Text.Paired text) : (line text).Paired := by
  unfold Paired
  rw [openAfter_line, h.openAfter]

/-- An empty line is paired. -/
theorem paired_blank : blank.Paired := rfl

/-- Indented source is paired if the source is. -/
theorem paired_indent (h : code.Paired) : (indent code).Paired := by
  unfold Paired
  rw [openAfter_indent, h.openAfter]

/-- The line that opens a block opens a brace. -/
theorem openAfter_opening (h : Text.Paired head) (pending : List Char) :
    openAfter pending (opening head) = some ('\x7d' :: pending) := by
  unfold opening
  rw [openAfter_line, String.toList_append, Text.openAfter_append, h.openAfter, Option.bind_some]
  rfl

/-- The line that closes a block closes a brace. -/
@[simp] theorem openAfter_closing (pending : List Char) :
    openAfter ('\x7d' :: pending) closing = some pending := by
  unfold closing
  rw [openAfter_line]
  rfl

/-- A block is paired if its head and what is in it are. -/
theorem paired_block (hhead : Text.Paired head) (hbody : body.Paired) :
    (block head body).Paired := by
  unfold Paired block
  rw [openAfter_append, openAfter_append, openAfter_opening hhead, Option.bind_some,
    openAfter_indent, hbody.openAfter, Option.bind_some, openAfter_closing]

end Code

/-! ## Types -/

namespace ValueType

variable {expr : String}

/-- The name of a type has no brackets. -/
theorem unbracketed_name (t : ValueType) : Unbracketed t.name :=
  unbracketed_of_isAlphanum t.isAlphanum_of_mem_name

/-- The name of a type is paired. -/
theorem paired_name (t : ValueType) : Paired t.name :=
  t.unbracketed_name.paired

/-- The spelling of a type inside a longer name has no brackets. -/
theorem unbracketed_capitalized (t : ValueType) : Unbracketed t.capitalized :=
  t.unbracketed_name.capitalize

/-- A type as declared is paired. -/
theorem paired_declared (t : ValueType) : Paired t.declared := by
  unfold declared
  split
  · next location hlocation =>
    have hplace : Paired location := by
      unfold dataLocation? at hlocation
      split at hlocation
      · obtain rfl := Option.some.inj hlocation
        decide
      · exact nomatch hlocation
    exact (t.paired_name.append (by decide)).append hplace
  · exact t.paired_name

/-- The name of a conversion has no brackets. -/
theorem unbracketed_castName (t : ValueType) : Unbracketed t.castName :=
  (by decide : Unbracketed "as").append t.unbracketed_capitalized

/-- The constant for the width of a type is paired. -/
theorem paired_constant (t : ValueType) : Paired t.constant := by
  obtain ⟨encrypted, width⟩ := t
  cases encrypted <;> cases width <;> decide +kernel

/-- The raw value of a paired expression is paired. -/
theorem paired_unwrapped (t : ValueType) (h : Paired expr) : Paired (t.unwrapped expr) := by
  unfold unwrapped Paired
  split_ifs
  all_goals
    simp only [String.toList_append, openAfter_append, h.openAfter, t.paired_name.openAfter]
    rfl

/-- The value of a paired raw expression is paired. -/
theorem paired_wrapped (t : ValueType) (h : Paired expr) : Paired (t.wrapped expr) := by
  unfold wrapped Paired
  split_ifs
  all_goals
    simp only [String.toList_append, openAfter_append, h.openAfter, t.paired_name.openAfter]
    rfl

end ValueType

/-! ## Functions of signatures -/

namespace Signature

variable {sig : Signature}

/-- The name of an input is paired. -/
theorem paired_inputName (i : Nat) : Paired (inputName i) :=
  (unbracketed_of_isAlphanum fun _ hc => isAlphanum_of_mem_inputName hc).paired

/-- The variable for the raw value of an input is paired. -/
theorem paired_unwrappedName (i : Nat) : Paired (unwrappedName i) :=
  (by decide : Paired "unwrappedInput").append (unbracketed_repr i).paired

/-- The head of a function is paired if its name is. -/
theorem paired_header (h : Paired sig.name) : Paired sig.header := by
  have hparams : Paired sig.parameterList := by
    apply paired_intercalate (by decide)
    intro text htext
    obtain ⟨⟨t, i⟩, -, rfl⟩ := List.mem_map.1 htext
    exact (t.paired_declared.append (by decide)).append (paired_inputName i)
  unfold header visibility Paired
  simp only [String.toList_append, openAfter_append, h.openAfter, hparams.openAfter,
    sig.result.paired_declared.openAfter]
  rfl

/-- The guards of a function are paired. -/
theorem paired_guards (sig : Signature) (leading : Leading) : (sig.guards leading).Paired := by
  have hguard : ∀ (t : ValueType) (i : Nat), (guard t i).Paired := by
    intro t i
    apply Code.paired_block
    · unfold Paired
      simp only [String.toList_append, openAfter_append, (paired_inputName i).openAfter]
      rfl
    · apply Code.paired_line
      unfold Paired
      simp only [String.toList_append, openAfter_append, (paired_inputName i).openAfter,
        t.unbracketed_castName.paired.openAfter]
      rfl
  cases leading with
  | plaintext => rfl
  | encrypted =>
    apply Code.paired_flatMap
    rintro ⟨t, i⟩ -
    show Code.Paired (if t.encrypted then guard t i else [])
    split
    · exact hguard t i
    · rfl

/-- The definition of the raw value of an input is paired. -/
theorem paired_unwrapping (t : ValueType) (i : Nat) : (unwrapping t i).Paired := by
  apply Code.paired_line
  have hvalue := t.paired_unwrapped (paired_inputName i)
  exact ((((by decide : Paired "uint256 ").append (paired_unwrappedName i)).append
    (by decide)).append hvalue).append (by decide)

/-- The call of the runtime is paired if the name of the function is. -/
theorem paired_call (h : Paired sig.name) (helper : CallHelper) :
    (sig.call helper).Paired := by
  have hhelper : Paired helper.function := by
    cases helper <;> decide
  have harguments : Paired (", ".intercalate sig.callArguments) := by
    apply paired_intercalate (by decide)
    unfold callArguments
    intro argument hargument
    rw [List.cons_append, List.mem_cons, List.mem_append, List.mem_singleton] at hargument
    rcases hargument with rfl | hargument | rfl
    · exact sig.runtimeType.paired_constant
    · obtain ⟨i, -, rfl⟩ := List.mem_map.1 hargument
      exact paired_unwrappedName i
    · exact (by decide : Paired "FheOps(Precompiles.Fheos).").append h
  apply Code.paired_line
  unfold Paired
  simp only [String.toList_append, openAfter_append, hhelper.openAfter, harguments.openAfter]
  rfl

/-- The body of a function is paired if its name is. -/
theorem paired_body (h : Paired sig.name) (leading : Leading) (helper : CallHelper) :
    (sig.body leading helper).Paired := by
  have hreturn : Paired ("return " ++ sig.result.wrapped "result" ++ ";") :=
    ((by decide : Paired "return ").append
      (sig.result.paired_wrapped (by decide))).append (by decide)
  unfold body
  refine ((((paired_guards sig leading).append (Code.paired_flatMap ?_)).append
    Code.paired_blank).append (paired_call h helper)).append (Code.paired_line hreturn)
  rintro ⟨t, i⟩ -
  exact paired_unwrapping t i

/-- The comment before a function is paired if its name is. -/
theorem paired_comment (h : Paired sig.name) (leading : Leading) :
    (sig.comment leading).Paired := by
  have hnames : Paired (", ".intercalate (sig.inputs.map ValueType.name)) := by
    apply paired_intercalate (by decide)
    intro name hname
    obtain ⟨t, -, rfl⟩ := List.mem_map.1 hname
    exact t.paired_name
  have hnote : Paired (inputsNote leading) := by
    cases leading <;> decide +kernel
  refine (Code.paired_line ?_).append (Code.paired_line ?_)
  · exact (((by decide : Paired "/// @notice This function performs the ").append h).append
      (by decide)).append hnames
  · exact (by decide : Paired "/// @dev ").append hnote

/-- A function is paired if its name is. -/
theorem paired_functionCode (h : Paired sig.name) (leading : Leading) (helper : CallHelper) :
    (sig.functionCode leading helper).Paired :=
  Code.paired_blank.append (Code.paired_indent ((paired_comment h leading).append
    (Code.paired_block (paired_header h) (paired_body h leading helper))))

end Signature

end FheSolidity
