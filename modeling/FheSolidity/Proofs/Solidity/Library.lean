import FheSolidity.Solidity.Library
import FheSolidity.Proofs.Solidity.Symbol

/-!
# When a library can be written, and what it declares

A function can be written for one to three inputs, and the symbols of the encrypted types always
can. So a library fails to be written exactly if one of its functions does, and then as the first of
these does (`libraryText_eq_error_iff`). The lines of a library that is written are known as long as
no name has a line break (`lines_libraryText`): between the preamble and the title of the
conversions it has a head for each signature, in their order and with no others, and behind them
come the conversions and the end of the library `FHE`.
-/

namespace FheSolidity

/-- There is a helper for one to three arguments. -/
theorem CallHelper.ofArity?_eq_none_iff {n : Nat} :
    CallHelper.ofArity? n = none ↔ ¬(1 ≤ n ∧ n ≤ 3) := by
  match n with
  | 0 => decide
  | 1 => decide
  | 2 => decide
  | 3 => decide
  | n + 4 =>
    refine iff_of_true rfl ?_
    omega

namespace Signature

/-- The text of a function is its code with the helper for the number of its inputs. -/
theorem functionText_eq_ok_iff {sig : Signature} {text : String} :
    sig.functionText = .ok text ↔
      ∃ helper, sig.helper = .ok helper ∧ text = (sig.functionCode sig.leading helper).render := by
  unfold functionText
  rw [bind_eq_ok_iff]
  constructor
  · intro h
    obtain ⟨helper, hhelper, h⟩ := h
    exact ⟨helper, hhelper, (Except.ok.inj h).symm⟩
  · intro h
    obtain ⟨helper, hhelper, rfl⟩ := h
    exact ⟨helper, hhelper, rfl⟩

/-- The runtime can be called for one to three inputs. -/
theorem exists_helper_iff {sig : Signature} :
    (∃ helper, sig.helper = .ok helper) ↔ 1 ≤ sig.arity ∧ sig.arity ≤ 3 := by
  rw [← not_iff_not, ← CallHelper.ofArity?_eq_none_iff]
  unfold helper
  cases CallHelper.ofArity? sig.arity with
  | none => simp
  | some helper => simp

/-- For any other number of inputs it cannot. -/
theorem helper_eq_error {sig : Signature} (h : ¬(1 ≤ sig.arity ∧ sig.arity ≤ 3)) :
    sig.helper = .error (.unsupportedArity sig.name sig.arity) := by
  unfold helper
  rw [CallHelper.ofArity?_eq_none_iff.2 h]

/-- A function can be written for one to three inputs. -/
theorem exists_functionText_iff {sig : Signature} :
    (∃ text, sig.functionText = .ok text) ↔ 1 ≤ sig.arity ∧ sig.arity ≤ 3 := by
  rw [← exists_helper_iff]
  constructor
  · intro h
    obtain ⟨text, htext⟩ := h
    obtain ⟨helper, hhelper, -⟩ := functionText_eq_ok_iff.1 htext
    exact ⟨helper, hhelper⟩
  · intro h
    obtain ⟨helper, hhelper⟩ := h
    exact ⟨_, functionText_eq_ok_iff.2 ⟨helper, hhelper, rfl⟩⟩

/-- For any other number of inputs it cannot. -/
theorem functionText_eq_error {sig : Signature} (h : ¬(1 ≤ sig.arity ∧ sig.arity ≤ 3)) :
    sig.functionText = .error (.unsupportedArity sig.name sig.arity) := by
  unfold functionText
  rw [helper_eq_error h]
  rfl

end Signature

/-- The encrypted types are encrypted. -/
theorem encrypted_of_mem_encryptedTypes {t : ValueType} (h : t ∈ ValueType.encryptedTypes) :
    t.encrypted = true :=
  ValueType.mem_encryptedTypes_iff.1 h

/-- A library is written exactly if all of its functions are, and then it has them in their order
between the preamble and the conversions. -/
theorem libraryText_eq_ok_iff {sigs : List Signature} {library : String} :
    libraryText sigs = .ok library ↔
      ∃ functions symbols, sigs.mapM Signature.functionText = .ok functions ∧
        symbolsOn ValueType.encryptedTypes = .ok symbols ∧
        library = String.join (Preamble.code.render :: functions ++ castTitle :: castFunctions ++
          Code.libraryEnd.render :: overloadingTitle :: symbols ++ bindingTitle ::
            ValueType.encryptedTypes.map fun t => (Binding.libraryCode t sigs).render) := by
  unfold libraryText
  constructor
  · intro h
    obtain ⟨functions, hfunctions, h⟩ := bind_eq_ok_iff.1 h
    obtain ⟨symbols, hsymbols, h⟩ := bind_eq_ok_iff.1 h
    exact ⟨functions, symbols, hfunctions, hsymbols, (Except.ok.inj h).symm⟩
  · intro h
    obtain ⟨functions, symbols, hfunctions, hsymbols, rfl⟩ := h
    exact bind_eq_ok_iff.2 ⟨functions, hfunctions, bind_eq_ok_iff.2 ⟨symbols, hsymbols, rfl⟩⟩

/-- A library fails to be written exactly if its functions do. -/
theorem libraryText_eq_error_iff {sigs : List Signature} {e : Failure} :
    libraryText sigs = .error e ↔ sigs.mapM Signature.functionText = .error e := by
  have hsymbols := symbolsOn_eq_ok fun _ => encrypted_of_mem_encryptedTypes
  unfold libraryText
  rw [bind_eq_error_iff]
  constructor
  · intro h
    rcases h with h | ⟨functions, -, h⟩
    · exact h
    · rw [hsymbols] at h
      exact nomatch h
  · exact .inl

/-! ## Heads in a library -/

/-- The title before the conversion functions, as a line. -/
def castTitleLine : List Char :=
  "\t// ********** TYPE CASTING ************* //".toList

namespace Signature

/-- The lines of the functions for some signatures have the heads of these signatures in their
order, and no others. -/
theorem exists_lines_functionTexts {sigs : List Signature} {texts : List String}
    (h : List.Forall₂ (fun sig text => sig.functionText = .ok text) sigs texts)
    (hnames : ∀ sig ∈ sigs, Text.Unbroken sig.name) (rest : List Char) :
    ∃ front, Text.lines ((String.join texts).toList ++ rest) = front ++ Text.lines rest ∧
      (∀ line ∈ front, Code.Inner line) ∧ front.filter isHead = sigs.map headLine := by
  induction h with
  | nil => exact ⟨[], rfl, List.forall_mem_nil _, rfl⟩
  | @cons sig text sigs texts htext _ ih =>
    obtain ⟨helper, -, rfl⟩ := functionText_eq_ok_iff.1 htext
    obtain ⟨front, hlines, hinner, hheads⟩ :=
      ih fun sig' hsig' => hnames sig' (List.mem_cons_of_mem _ hsig')
    have hcode := unbroken_functionCode (hnames sig List.mem_cons_self) sig.leading helper
    refine ⟨(sig.functionCode sig.leading helper).chars ++ front, ?_, ?_, ?_⟩
    · rw [String.join_cons, String.toList_append, List.append_assoc, Code.lines_render_append,
        Code.lines_render hcode, hlines, List.append_assoc]
    · exact List.forall_mem_append.2 ⟨Code.inner_of_mem_chars_blank_append_indent, hinner⟩
    · rw [List.filter_append, filter_isHead_functionCode, hheads]
      rfl

end Signature

namespace Cast

/-- The head of a conversion is unbroken. -/
theorem unbroken_header (c : Cast) : Text.Unbroken c.header := by
  unfold header visibility
  simp +decide

/-- The body of a conversion is unbroken. -/
theorem unbroken_body (c : Cast) : c.body.Unbroken := by
  unfold body
  split
  · simp +decide
  · split
    · simp +decide
    · split
      · simp +decide
      · simp +decide

/-- A conversion function is unbroken. -/
theorem unbroken_functionCode (c : Cast) : c.functionCode.Unbroken := by
  unfold functionCode
  simp +decide [c.unbroken_header, c.unbroken_body]

end Cast

/-- The lines of all conversion functions, of which the first is empty. -/
theorem exists_castFunctions_eq :
    ∃ casts, (String.join castFunctions).toList = '\n' :: (Code.render casts).toList ∧
      casts.Unbroken ∧ ⟨0, ""⟩ :: casts = Cast.all.flatMap Cast.functionCode := by
  obtain ⟨casts, hcasts⟩ : ∃ casts, Cast.all.flatMap Cast.functionCode = ⟨0, ""⟩ :: casts :=
    ⟨_, rfl⟩
  have hunbroken : Code.Unbroken (⟨0, ""⟩ :: casts) := by
    rw [← hcasts]
    exact Code.unbroken_flatMap fun c _ => c.unbroken_functionCode
  refine ⟨casts, ?_, fun l hl => hunbroken l (List.mem_cons_of_mem _ hl), hcasts.symm⟩
  unfold castFunctions
  rw [← Code.render_flatMap, hcasts, Code.toList_render_cons]
  rfl

/-- The lines of a library: those of the preamble, those of the functions, which have the heads of
the signatures and no others, the title of the conversions with their lines, and the end of the
library `FHE` with what follows it. -/
theorem lines_libraryText {sigs : List Signature} {library : String}
    (h : libraryText sigs = .ok library) (hnames : ∀ sig ∈ sigs, Text.Unbroken sig.name) :
    Preamble.code.render.toList <+: library.toList ∧
      ∃ front casts back, Text.lines library.toList =
          Text.lines Preamble.code.render.toList ++ front ++
            castTitleLine :: (Code.chars casts ++ [] :: ['\x7d'] :: back) ∧
        (∀ line ∈ front, Code.Inner line) ∧
        front.filter Signature.isHead = sigs.map Signature.headLine ∧
        ⟨0, ""⟩ :: casts = Cast.all.flatMap Cast.functionCode := by
  obtain ⟨functions, symbols, hfunctions, -, rfl⟩ := libraryText_eq_ok_iff.1 h
  obtain ⟨casts, hjoin, hcasts, hall⟩ := exists_castFunctions_eq
  generalize overloadingTitle :: symbols = symbolTexts
  generalize bindingTitle :: ValueType.encryptedTypes.map
    (fun t => (Binding.libraryCode t sigs).render) = bindingTexts
  have htitle : castTitle.toList = '\n' :: '\n' :: castTitleLine := by decide
  generalize hrest : (String.join (symbolTexts ++ bindingTexts)).toList = rest
  -- The title ends where the first conversion starts.
  have hlibrary : (String.join (Preamble.code.render :: functions ++
      castTitle :: castFunctions ++ Code.libraryEnd.render :: symbolTexts ++ bindingTexts)).toList =
      Preamble.code.render.toList ++ ((String.join functions).toList ++ '\n' :: '\n' ::
        (castTitleLine ++ '\n' :: (casts.render.toList ++
          (Code.libraryEnd.render.toList ++ rest)))) := by
    simp only [← hrest, List.append_assoc, List.cons_append, String.join_cons, String.join_append,
      String.toList_append, htitle, hjoin]
  obtain ⟨front, hlines, hfront, hheads⟩ :=
    Signature.exists_lines_functionTexts (mapM_eq_ok_iff.1 hfunctions) hnames
      ('\n' :: '\n' :: (castTitleLine ++ '\n' :: (casts.render.toList ++
          (Code.libraryEnd.render.toList ++ rest))))
  have hempty : ∀ text, Text.lines ('\n' :: text) = [] :: Text.lines text :=
    Text.lines_append_newline List.not_mem_nil
  have hend : Code.libraryEnd.Unbroken :=
    Code.unbroken_append.2 ⟨Code.unbroken_blank, Code.unbroken_line.2 (by decide)⟩
  have htitleLine : Text.lines (castTitleLine ++ '\n' :: (casts.render.toList ++
      (Code.libraryEnd.render.toList ++ rest))) =
      castTitleLine :: (casts.chars ++ [] :: ['\x7d'] :: Text.lines rest) := by
    rw [Text.lines_append_newline (by decide), Code.lines_render_append, Code.lines_render hcasts,
      Code.lines_render_append, Code.lines_render hend]
    rfl
  rw [hempty, hempty, htitleLine] at hlines
  refine ⟨?_, front ++ [[], []], casts, Text.lines rest, ?_, ?_, ?_, hall⟩
  · rw [hlibrary]
    exact List.prefix_append _ _
  · rw [hlibrary, Code.lines_render_append, hlines, List.append_assoc, List.append_assoc]
    rfl
  · rw [List.forall_mem_append]
    exact ⟨hfront, by simp [Code.Inner]⟩
  · rw [List.filter_append, hheads]
    exact List.append_nil _

/-- Behind the preamble of a library come the heads of its signatures, in their order and with no
others before the title of the conversions. -/
theorem exists_lines_libraryText {sigs : List Signature} {library : String}
    (h : libraryText sigs = .ok library) (hnames : ∀ sig ∈ sigs, Text.Unbroken sig.name) :
    Preamble.code.render.toList <+: library.toList ∧
      ∃ front back, Text.lines library.toList =
          Text.lines Preamble.code.render.toList ++ front ++ castTitleLine :: back ∧
        castTitleLine ∉ front ∧ front.filter Signature.isHead = sigs.map Signature.headLine := by
  obtain ⟨hpreamble, front, casts, back, hlines, hinner, hheads, -⟩ := lines_libraryText h hnames
  refine ⟨hpreamble, front, _, hlines, ?_, hheads⟩
  intro hmem
  exact Code.not_inner_cons (by decide) _ (hinner castTitleLine hmem)

end FheSolidity
