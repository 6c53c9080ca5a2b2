import FheSolidity.Proofs.Solidity.Head
import FheSolidity.Proofs.Solidity.Library

/-!
# The functions of the library `FHE`

Besides a function for each signature, the library `FHE` declares a helper for each encrypted type
and the conversions. `libraryHeads` lists the heads of them all. In the text the library goes from
the line that opens it to the first closing brace that is not indented (`IsScope`), and the heads
among its lines are those listed (`exists_isScope_libraryText`).
-/

namespace FheSolidity

open Text

namespace Head

/-- The line that a head is written on in a library. -/
def line (head : Head) : List Char :=
  "    ".toList ++ head.text.toList ++ " \x7b".toList

/-- What tells the overloads of one name apart, with the name: the types of the parameters. -/
def key (head : Head) : String × List ValueType :=
  (head.name, head.inputs)

/-- The text of a head starts as that of every function does. -/
theorem function_prefix_text (head : Head) : "function ".toList <+: head.text.toList := by
  unfold text
  simp only [String.toList_append, List.append_assoc]
  exact List.prefix_append _ _

end Head

/-- The heads of the functions that the library `FHE` declares for some signatures: the helpers of
the preamble, the functions of the signatures, and the conversions. -/
def libraryHeads (sigs : List Signature) : List Head :=
  ValueType.encryptedTypes.map Preamble.isInitializedHead ++ sigs.map Signature.head ++
    Cast.all.map Cast.head

/-- The functions of the signatures are declared in their order. -/
theorem sublist_libraryHeads (sigs : List Signature) :
    (sigs.map Signature.head).Sublist (libraryHeads sigs) :=
  (List.sublist_append_right _ _).trans (List.sublist_append_left _ _)

/-! ## Heads of each kind -/

/-- The function with a signature has the line of its head. -/
theorem Signature.headLine_eq (sig : Signature) : sig.headLine = sig.head.line := by
  unfold headLine Head.line
  rw [text_head]

namespace Cast

/-- Every conversion is into an encrypted type. -/
theorem target_mem_of_mem_all : ∀ c ∈ all, c.target ∈ ValueType.encryptedTypes := by
  decide

/-- Of the lines of a conversion function, the head alone is one. -/
theorem filter_isHead_functionCode {c : Cast} (h : c.target.encrypted = true) :
    c.functionCode.chars.filter Signature.isHead = [c.head.line] := by
  have hblank : Code.blank.chars.filter Signature.isHead = [] := by decide
  have hhead := c.head.function_prefix_text
  rw [text_head h] at hhead
  unfold functionCode
  rw [Code.indent_append, Code.chars_append, Code.chars_append, List.filter_append,
    List.filter_append, hblank, Signature.filter_isHead_indent_line,
    Signature.filter_isHead_indent_block _ hhead, Head.line, text_head h]
  · rfl
  · rw [String.toList_append, String.toList_append, String.toList_append]
    rfl

/-- Among the lines of the conversions, the heads are those of the conversions in their order. -/
theorem filter_isHead_all :
    (Code.chars (all.flatMap functionCode)).filter Signature.isHead =
      all.map fun c => c.head.line := by
  rw [Code.chars_flatMap, List.filter_flatMap, List.map_eq_flatMap]
  apply List.flatMap_congr
  intro c hc
  exact filter_isHead_functionCode (encrypted_of_mem_encryptedTypes (target_mem_of_mem_all c hc))

end Cast

namespace Preamble

/-- All of the preamble that comes before the library `FHE`. -/
def introduction : Code :=
  imports ++ ValueType.encryptedTypes.flatMap typeDefinition ++ Code.blank ++ common ++
    Code.blank ++ implementation ++ Code.blank

/-- What the library `FHE` holds before the generated functions. -/
def openingCode : Code :=
  Code.indent (ValueType.encryptedTypes.flatMap nilConstant ++
    ValueType.encryptedTypes.flatMap isInitialized)

/-- The preamble ends with the opening of the library `FHE`. -/
theorem code_eq : code = introduction ++ (Code.opening "library FHE" ++ openingCode) :=
  rfl

/-- What the library `FHE` holds before the generated functions is unbroken. -/
theorem unbroken_openingCode : openingCode.Unbroken := by
  unfold openingCode
  rw [Code.unbroken_indent, Code.unbroken_append]
  refine ⟨Code.unbroken_flatMap ?_, Code.unbroken_flatMap ?_⟩
  · intro t _
    have hconstant : Unbroken (constantCase t.name) := by
      obtain ⟨encrypted, width⟩ := t
      cases encrypted <;> cases width <;> decide +kernel
    unfold nilConstant
    simp +decide [hconstant]
  · intro t _
    unfold isInitialized helper visibility
    simp +decide

/-- Of the lines of the function that tells whether a value is initialized, the head alone is
one. -/
theorem filter_isHead_isInitialized {t : ValueType} (h : t.encrypted = true) :
    (Code.indent (isInitialized t)).chars.filter Signature.isHead =
      [(isInitializedHead t).line] := by
  have hblank : (Code.indent Code.blank).chars.filter Signature.isHead = [] := by decide
  rw [isInitialized_eq h, Code.indent_append, Code.chars_append, List.filter_append, hblank,
    Signature.filter_isHead_indent_block _ (isInitializedHead t).function_prefix_text]
  rfl

/-- Among the lines of the library `FHE` before the generated functions, the heads are those of the
functions that tell whether a value is initialized. -/
theorem filter_isHead_openingCode :
    openingCode.chars.filter Signature.isHead =
      ValueType.encryptedTypes.map fun t => (isInitializedHead t).line := by
  have hconstants : (Code.indent (ValueType.encryptedTypes.flatMap nilConstant)).chars.filter
      Signature.isHead = [] := by
    decide +kernel
  unfold openingCode
  rw [Code.indent_append, Code.chars_append, List.filter_append, hconstants, List.nil_append,
    Code.indent_flatMap, Code.chars_flatMap, List.filter_flatMap, List.map_eq_flatMap]
  apply List.flatMap_congr
  intro t ht
  exact filter_isHead_isInitialized (encrypted_of_mem_encryptedTypes ht)

/-- The lines of the preamble are those of its introduction and those that open the library
`FHE`. -/
theorem lines_render_code :
    lines code.render.toList =
      lines introduction.render.toList ++ "library FHE \x7b".toList :: openingCode.chars := by
  have hopening : Code.Unbroken (Code.opening "library FHE" ++ openingCode) :=
    Code.unbroken_append.2 ⟨Code.unbroken_line.2 (by decide), unbroken_openingCode⟩
  rw [code_eq, Code.render_append, String.toList_append, Code.lines_render_append,
    Code.lines_render hopening]
  rfl

end Preamble

/-! ## The library `FHE` in the text -/

/-- Some lines are those inside the library `FHE` of a text: they stand between the line that opens
it, behind the introduction, and the first closing brace that is not indented. -/
def IsScope (library : String) (scope : List (List Char)) : Prop :=
  "\x7d".toList ∉ scope ∧ ∃ after, lines library.toList =
    lines Preamble.introduction.render.toList ++
      "library FHE \x7b".toList :: (scope ++ "\x7d".toList :: after)

/-- A text has the lines of the library `FHE` in one place at most. -/
theorem IsScope.unique {library : String} {scope scope' : List (List Char)}
    (h : IsScope library scope) (h' : IsScope library scope') : scope = scope' := by
  obtain ⟨hbrace, after, hlines⟩ := h
  obtain ⟨hbrace', after', hlines'⟩ := h'
  rw [hlines] at hlines'
  have hscope := (List.cons.inj (List.append_cancel_left hlines')).2
  have hclosing : ("\x7d".toList != "\x7d".toList) = false := by decide
  have hinside : ∀ {list : List (List Char)}, "\x7d".toList ∉ list →
      ∀ line ∈ list, (line != "\x7d".toList) = true := by
    intro list hlist line hline
    rw [bne_iff_ne]
    rintro rfl
    exact hlist hline
  -- The lines up to the first closing brace are the same, read from either side.
  have htake := congrArg (List.takeWhile (· != "\x7d".toList)) hscope
  rwa [takeWhile_append_cons (hinside hbrace) hclosing,
    takeWhile_append_cons (hinside hbrace') hclosing] at htake

/-- Among the lines inside the library `FHE`, the heads are those of the functions that it declares,
in their order. -/
theorem exists_isScope_libraryText {sigs : List Signature} {library : String}
    (h : libraryText sigs = .ok library) (hnames : ∀ sig ∈ sigs, Unbroken sig.name) :
    ∃ scope, IsScope library scope ∧
      scope.filter Signature.isHead = (libraryHeads sigs).map Head.line := by
  obtain ⟨-, front, casts, back, hlines, hinner, hheads, hcasts⟩ := lines_libraryText h hnames
  -- The library holds what its opening does, the functions, the title and the conversions, and the
  -- empty line before its end.
  refine ⟨Preamble.openingCode.chars ++ front ++ castTitleLine :: (casts.chars ++ [[]]),
    ⟨?_, back, ?_⟩, ?_⟩
  · -- Every line can stand inside a block, but for the title, which starts with a tab.
    have hbrace : ∀ {list : List (List Char)}, (∀ line ∈ list, Code.Inner line) →
        "\x7d".toList ∉ list :=
      fun hlist hmem => Code.not_inner_cons (by decide) _ (hlist _ hmem)
    have hcastLines : ∀ line ∈ casts.chars, Code.Inner line := by
      intro line hline
      have hmem : line ∈ Code.chars (Cast.all.flatMap Cast.functionCode) := by
        rw [← hcasts]
        exact List.mem_cons_of_mem _ hline
      rw [Code.chars_flatMap] at hmem
      obtain ⟨c, -, hmem⟩ := List.mem_flatMap.1 hmem
      exact Code.inner_of_mem_chars_blank_append_indent line hmem
    rw [List.mem_append, List.mem_append, List.mem_cons, List.mem_append, not_or, not_or, not_or,
      not_or]
    exact ⟨⟨hbrace Code.inner_of_mem_chars_indent, hbrace hinner⟩, by decide, hbrace hcastLines,
      by decide⟩
  · rw [hlines, Preamble.lines_render_code]
    simp only [List.append_assoc, List.cons_append, List.nil_append]
    rfl
  · have hcastHeads : casts.chars.filter Signature.isHead = Cast.all.map fun c => c.head.line := by
      rw [← Cast.filter_isHead_all, ← hcasts]
      rfl
    have htitle : ¬Signature.isHead castTitleLine = true := by decide
    have hfunctions : sigs.map Signature.headLine = sigs.map fun sig => sig.head.line :=
      List.map_congr_left fun sig _ => sig.headLine_eq
    have hempty : [[]].filter Signature.isHead = [] := by decide
    unfold libraryHeads
    rw [List.filter_append, List.filter_append, List.filter_cons_of_neg htitle, List.filter_append,
      Preamble.filter_isHead_openingCode, hheads, hfunctions, hcastHeads, hempty, List.append_nil,
      List.map_append, List.map_append, List.map_map, List.map_map, List.map_map]
    rfl

end FheSolidity
