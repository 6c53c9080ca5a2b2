import FheSolidity.Solidity.Function
import FheSolidity.Proofs.Signature
import FheSolidity.Proofs.Solidity.Code

/-!
# The lines of a function

Nothing that a function is made from has a line break, short of its name. So the lines of a function
whose name has none are those it is built from (`unbroken_functionCode`). Of the lines of any block
in a library, only the one that opens it can start as the head of a function does, since what the
block holds stands deeper (`filter_isHead_indent_block`); and the comment before a function starts
otherwise.
-/

namespace FheSolidity

open Text

/-! ## Texts of types -/

namespace ValueType

/-- The name of a type is unbroken. -/
@[simp] theorem unbroken_name (t : ValueType) : Unbroken t.name := by
  apply unbroken_of_forall
  intro c hc
  exact .inl (isAlphanum_of_mem_name t c hc)

/-- A type as declared is unbroken. -/
@[simp] theorem unbroken_declared (t : ValueType) : Unbroken t.declared := by
  apply unbroken_of_forall
  intro c hc
  rcases Signature.mem_declared t c hc with h | h
  · exact .inl h
  · exact .inr (.inl h)

/-- The name of a conversion is unbroken. -/
@[simp] theorem unbroken_castName (t : ValueType) : Unbroken t.castName := by
  obtain ⟨encrypted, width⟩ := t
  cases encrypted <;> cases width <;> decide +kernel

/-- The constant for the width of a type is unbroken. -/
@[simp] theorem unbroken_constant (t : ValueType) : Unbroken t.constant := by
  obtain ⟨encrypted, width⟩ := t
  cases encrypted <;> cases width <;> decide +kernel

/-- The raw value of an unbroken expression is unbroken. -/
theorem unbroken_unwrapped (t : ValueType) {expr : String} (h : Unbroken expr) :
    Unbroken (t.unwrapped expr) := by
  unfold unwrapped
  split
  · simp +decide [h]
  · split
    · simp +decide [h]
    · split
      · simp +decide [h]
      · simp +decide [h]

/-- The value of an unbroken raw expression is unbroken. -/
theorem unbroken_wrapped (t : ValueType) {expr : String} (h : Unbroken expr) :
    Unbroken (t.wrapped expr) := by
  unfold wrapped
  split
  · simp +decide [h]
  · split
    · simp +decide [h]
    · split
      · simp +decide [h]
      · simp +decide [h]

end ValueType

namespace Signature

/-! ## Unbroken functions -/

/-- The name of an input is unbroken. -/
@[simp] theorem unbroken_inputName (i : Nat) : Unbroken (inputName i) := by
  apply unbroken_of_forall
  intro c hc
  exact .inl (isAlphanum_of_mem_inputName hc)

/-- The variable for the raw value of an input is unbroken. -/
@[simp] theorem unbroken_unwrappedName (i : Nat) : Unbroken (unwrappedName i) := by
  unfold unwrappedName
  rw [unbroken_append]
  exact ⟨by decide, unbroken_repr i⟩

/-- The head of a function is unbroken if its name is. -/
theorem unbroken_header {sig : Signature} (h : Unbroken sig.name) : Unbroken sig.header := by
  have hparams : Unbroken sig.parameterList := unbroken_of_forall fun c hc => mem_parameterList hc
  unfold header visibility
  simp +decide [h, hparams]

/-- The guards of a function are unbroken. -/
theorem unbroken_guards (sig : Signature) (leading : Leading) : (sig.guards leading).Unbroken := by
  cases leading with
  | plaintext => exact List.forall_mem_nil _
  | encrypted =>
    apply Code.unbroken_flatMap
    rintro ⟨t, i⟩ -
    show Code.Unbroken (if t.encrypted then guard t i else [])
    split
    · unfold guard
      simp +decide
    · exact List.forall_mem_nil _

/-- The definition of the raw value of an input is unbroken. -/
theorem unbroken_unwrapping (t : ValueType) (i : Nat) : (unwrapping t i).Unbroken := by
  unfold unwrapping
  simp +decide [t.unbroken_unwrapped (unbroken_inputName i)]

/-- The call of the runtime is unbroken if the name of the function is. -/
theorem unbroken_call {sig : Signature} (h : Unbroken sig.name) (helper : CallHelper) :
    (sig.call helper).Unbroken := by
  have hhelper : Unbroken helper.function := by
    cases helper <;> decide
  have harguments : ∀ argument ∈ sig.callArguments, Unbroken argument := by
    unfold callArguments
    intro argument hargument
    rw [List.cons_append, List.mem_cons, List.mem_append, List.mem_singleton] at hargument
    rcases hargument with rfl | hargument | rfl
    · exact sig.runtimeType.unbroken_constant
    · obtain ⟨i, -, rfl⟩ := List.mem_map.1 hargument
      exact unbroken_unwrappedName i
    · rw [unbroken_append]
      exact ⟨by decide, h⟩
  have hlist : Unbroken (", ".intercalate sig.callArguments) :=
    unbroken_intercalate (by decide) harguments
  unfold call
  simp +decide [hhelper, hlist]

/-- The body of a function is unbroken if its name is. -/
theorem unbroken_body {sig : Signature} (h : Unbroken sig.name) (leading : Leading)
    (helper : CallHelper) : (sig.body leading helper).Unbroken := by
  have hreturn : Unbroken ("return " ++ sig.result.wrapped "result" ++ ";") := by
    have hwrapped := sig.result.unbroken_wrapped (by decide : Unbroken "result")
    simp +decide [hwrapped]
  unfold body
  simp only [Code.unbroken_append, Code.unbroken_blank, Code.unbroken_line, hreturn,
    unbroken_guards, unbroken_call h, and_true, true_and]
  apply Code.unbroken_flatMap
  rintro ⟨t, i⟩ -
  exact unbroken_unwrapping t i

/-- The comment before a function is unbroken if its name is. -/
theorem unbroken_comment {sig : Signature} (h : Unbroken sig.name) (leading : Leading) :
    (sig.comment leading).Unbroken := by
  have hnames : Unbroken (", ".intercalate (sig.inputs.map ValueType.name)) := by
    apply unbroken_intercalate (by decide)
    intro name hname
    obtain ⟨t, -, rfl⟩ := List.mem_map.1 hname
    exact t.unbroken_name
  have hnote : Unbroken (inputsNote leading) := by
    cases leading <;> decide +kernel
  unfold comment
  simp +decide [h, hnames, hnote]

/-- A function is unbroken if its name is. -/
theorem unbroken_functionCode {sig : Signature} (h : Unbroken sig.name) (leading : Leading)
    (helper : CallHelper) : (sig.functionCode leading helper).Unbroken := by
  unfold functionCode
  simp only [Code.unbroken_append, Code.unbroken_blank, Code.unbroken_indent, Code.unbroken_block,
    unbroken_comment h, unbroken_header h, unbroken_body h, and_self]

/-! ## Heads of functions -/

/-- Whether a line starts as the head of a function in a library does. -/
def isHead (line : List Char) : Bool :=
  "    function ".toList.isPrefixOf line

/-- The declaration that a head stands for: it is not indented, and has a semicolon where the head
has the brace that opens the body. -/
def declarationOfHead (line : List Char) : List Char :=
  (line.drop 4).dropLast.dropLast ++ [';']

/-- The head of a function as a line of the library. -/
def headLine (sig : Signature) : List Char :=
  "    ".toList ++ sig.header.toList ++ " \x7b".toList

/-- The head of a function stands for the declaration of its signature. -/
theorem declarationOfHead_headLine (sig : Signature) :
    declarationOfHead sig.headLine = sig.declaration.toList := by
  have hbrace : (sig.header.toList ++ " \x7b".toList).dropLast.dropLast = sig.header.toList := by
    rw [show " \x7b".toList = [' '] ++ ['\x7b'] by decide, ← List.append_assoc,
      List.dropLast_concat, List.dropLast_concat]
  unfold declarationOfHead headLine declaration
  rw [List.append_assoc, List.drop_left' (by decide), hbrace, String.toList_append]
  rfl

/-- A line at the depth of a library is a head if its text is that of a function. -/
theorem isHead_chars_of_depth_eq_one {l : Line} (h : l.depth = 1) :
    isHead l.chars = "function ".toList.isPrefixOf l.text.toList := by
  unfold Line.chars
  split
  · next hempty =>
    rw [hempty]
    decide
  · rw [h]
    rfl

/-- A line that stands deeper is no head. -/
theorem isHead_chars_of_two_le_depth {l : Line} (h : 2 ≤ l.depth) : isHead l.chars = false := by
  rcases Code.chars_eq_of_le_depth h with hchars | ⟨rest, hchars⟩
  · rw [hchars]
    rfl
  · rw [hchars]
    rfl

/-- Source in which no line is a head. -/
theorem filter_isHead_eq_nil {code : Code} (h : ∀ l ∈ code, isHead l.chars = false) :
    code.chars.filter isHead = [] := by
  rw [List.filter_eq_nil_iff]
  intro line hline
  obtain ⟨l, hl, rfl⟩ := List.mem_map.1 hline
  rw [h l hl]
  exact Bool.false_ne_true

/-- A line at the depth of a library that does not start as a function does is no head. -/
theorem filter_isHead_indent_line {text : String}
    (h : "function ".toList.isPrefixOf text.toList = false) :
    (Code.indent (Code.line text)).chars.filter isHead = [] := by
  apply filter_isHead_eq_nil
  intro l hl
  rw [List.mem_singleton.1 hl, isHead_chars_of_depth_eq_one rfl]
  exact h

/-- Of the lines of a block in a library, the one that opens it is a head if it starts as a function
does, and no other is. -/
theorem filter_isHead_indent_block {head : String} (body : Code)
    (h : "function ".toList <+: head.toList) :
    (Code.indent (Code.block head body)).chars.filter isHead =
      ["    ".toList ++ head.toList ++ " \x7b".toList] := by
  obtain ⟨rest, hrest⟩ := h
  have hhead : isHead ("    ".toList ++ head.toList ++ " \x7b".toList) = true := by
    rw [← hrest]
    rfl
  have hbody : (Code.indent (Code.indent body)).chars.filter isHead = [] := by
    apply filter_isHead_eq_nil
    intro l hl
    apply isHead_chars_of_two_le_depth
    refine Code.succ_le_depth_of_mem_indent (n := 1) ?_ l hl
    exact Code.succ_le_depth_of_mem_indent fun l' _ => Nat.zero_le _
  have hclosing : (Code.indent Code.closing).chars.filter isHead = [] := by decide
  unfold Code.block
  simp only [Code.indent_append, Code.chars_append, List.filter_append, Code.chars_indent_opening,
    hbody, hclosing, List.append_nil]
  rw [List.filter_cons_of_pos hhead, List.filter_nil]

/-- No line of the comment before a function is a head. Both start with slashes, whatever the name
is. -/
theorem filter_isHead_indent_comment (sig : Signature) (leading : Leading) :
    (Code.indent (sig.comment leading)).chars.filter isHead = [] := by
  unfold comment
  rw [Code.indent_append, Code.chars_append, List.filter_append, filter_isHead_indent_line,
    filter_isHead_indent_line, List.append_nil]
  · rw [String.toList_append]
    rfl
  · rw [String.toList_append, String.toList_append, String.toList_append]
    rfl

/-- Of the lines of a function, the head alone is one. -/
theorem filter_isHead_functionCode (sig : Signature) (leading : Leading) (helper : CallHelper) :
    (sig.functionCode leading helper).chars.filter isHead = [sig.headLine] := by
  have hhead : "function ".toList <+: sig.header.toList := by
    unfold header
    simp only [String.toList_append, List.append_assoc]
    exact List.prefix_append _ _
  have hblank : Code.blank.chars.filter isHead = [] := by decide
  unfold functionCode
  rw [Code.indent_append, Code.chars_append, Code.chars_append, List.filter_append,
    List.filter_append, hblank, filter_isHead_indent_comment, filter_isHead_indent_block _ hhead]
  rfl

end Signature

end FheSolidity
