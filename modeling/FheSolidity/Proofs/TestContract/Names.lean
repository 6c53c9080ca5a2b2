import FheSolidity.TestContract
import FheSolidity.Proofs.Solidity.Function

/-!
# Names in the texts of a test contract

A test contract is written twice, as a contract and as an interface, and both texts name its
functions: the contract in the heads of the functions, and the interface in its members. `Legible`
says what the names have to be free of for a reader to see where they end, and then both texts name
the functions of the contract in their order (`declaredNames_source`, `memberNames_abi`).
-/

namespace FheSolidity

open Text

/-! ## Reading names -/

/-- The name in the head of a function of a contract: what stands between the keyword and the next
opening parenthesis. -/
def nameInHead (line : List Char) : List Char :=
  (line.drop "    function ".length).takeWhile (· != '(')

/-- The names of the functions that the text of a contract declares. -/
def declaredNames (source : List Char) : List (List Char) :=
  ((lines source).filter Signature.isHead).map nameInHead

/-- The name of a member of an interface: what stands before the next colon. -/
def nameInMember (line : List Char) : List Char :=
  (line.drop "    ".length).takeWhile (· != ':')

/-- The names of the members of an interface, which stand between the line that opens it and the
brace that closes it. -/
def memberNames (interface : List Char) : List (List Char) :=
  (((lines interface).drop 1).takeWhile (· != ['\x7d'])).map nameInMember

/-! ## Legible functions -/

/-- A test function whose name can be read off its texts: nothing in it has a line break, and its
name has no character that ends it. -/
structure TestFunction.Legible (f : TestFunction) : Prop where
  /-- The name ends at the parenthesis before the parameters in the contract. -/
  paren : '(' ∉ f.name.toList
  /-- The name ends at the colon behind it in the interface. -/
  colon : ':' ∉ f.name.toList
  /-- The head of the function is one line. -/
  header : Unbroken f.header
  /-- The body consists of its lines. -/
  body : f.body.Unbroken
  /-- The member of the interface is one line. -/
  member : f.member.Unbroken

namespace TestFunction

/-- The head of a test function starts as that of every function does. -/
theorem header_eq (f : TestFunction) :
    ∃ rest, f.header.toList = "function ".toList ++ (f.name.toList ++ '(' :: rest) := by
  unfold header
  simp only [String.toList_append, List.append_assoc]
  exact ⟨_, rfl⟩

/-- A function in a contract has its name between the keyword and the parameters. -/
theorem filter_isHead_code (f : TestFunction) (h : '(' ∉ f.name.toList) :
    ((Code.chars (Code.indent (Code.blank ++ f.code))).filter Signature.isHead).map nameInHead =
      [f.name.toList] := by
  obtain ⟨rest, hheader⟩ := f.header_eq
  have hblank : (Code.indent Code.blank).chars.filter Signature.isHead = [] := by decide
  have hname : ∀ c ∈ f.name.toList, (c != '(') = true := by
    intro c hc
    rw [bne_iff_ne]
    rintro rfl
    exact h hc
  unfold code
  rw [Code.indent_append, Code.chars_append, List.filter_append, hblank, List.nil_append,
    Signature.filter_isHead_indent_block _ ⟨_, hheader.symm⟩, hheader, List.map_singleton]
  show [((f.name.toList ++ '(' :: rest) ++ " \x7b".toList).takeWhile (· != '(')] = _
  rw [List.append_assoc, List.cons_append, takeWhile_append_cons hname (by decide)]

/-- The line of a function in an interface. -/
theorem chars_indent_member (f : TestFunction) :
    ∃ rest, (Code.indent f.member).chars = ["    ".toList ++ (f.name.toList ++ ':' :: rest)] := by
  obtain ⟨rest, hrest⟩ : ∃ rest, ∀ l ∈ f.member, l.text.toList = f.name.toList ++ ':' :: rest := by
    unfold member Code.line
    simp only [List.forall_mem_singleton, String.toList_append, List.append_assoc]
    exact ⟨_, rfl⟩
  refine ⟨rest, ?_⟩
  unfold member Code.line at hrest ⊢
  rw [List.forall_mem_singleton] at hrest
  show [Line.chars ⟨1, _⟩] = _
  unfold Line.chars
  rw [if_neg, hrest]
  · rfl
  · intro hempty
    rw [hempty] at hrest
    exact absurd hrest.symm (List.append_ne_nil_of_right_ne_nil _ (List.cons_ne_nil _ _))

/-- A legible function is written in unbroken lines. -/
theorem Legible.unbroken_code {f : TestFunction} (h : f.Legible) : f.code.Unbroken :=
  Code.unbroken_block.2 ⟨h.header, h.body⟩

end TestFunction

/-! ## Legible contracts -/

/-- A test contract whose functions can be told from its texts. -/
structure TestContract.Legible (c : TestContract) : Prop where
  /-- The lines that are named for the contract are not broken. -/
  key : Unbroken c.key
  /-- Its functions are legible. -/
  functions : ∀ f ∈ c.functions, f.Legible

namespace TestContract

variable {c : TestContract}

/-- The lines of the text of a legible contract. -/
theorem lines_source (h : c.Legible) :
    lines c.source.toList = preamble.chars ++ (Code.block ("contract " ++ c.key ++ "Test")
      (Code.line "using Utils for *;" ++
        c.functions.flatMap fun f => Code.blank ++ f.code)).chars := by
  have hpreamble : preamble.Unbroken := by
    intro l hl
    revert l
    decide +kernel
  have hfunctions : Code.Unbroken (c.functions.flatMap fun f => Code.blank ++ f.code) := by
    apply Code.unbroken_flatMap
    intro f hf
    exact Code.unbroken_append.2 ⟨Code.unbroken_blank, (h.functions f hf).unbroken_code⟩
  unfold source
  rw [Code.lines_render, Code.chars_append]
  simp +decide [hpreamble, hfunctions, h.key]

/-- The text of a legible contract declares its functions. -/
theorem declaredNames_source (h : c.Legible) :
    declaredNames c.source.toList = c.functions.map fun f => f.name.toList := by
  have hbefore : preamble.chars.filter Signature.isHead = [] := by decide +kernel
  have hopening : (Code.opening ("contract " ++ c.key ++ "Test")).chars.filter Signature.isHead =
      [] := by
    unfold Code.opening
    rw [Code.chars_line]
    simp only [String.toList_append]
    rfl
  have husing : (Code.indent (Code.line "using Utils for *;")).chars.filter Signature.isHead = [] :=
    Signature.filter_isHead_indent_line (by decide)
  have hclosing : Code.closing.chars.filter Signature.isHead = [] := by decide
  have hfunctions : ∀ f ∈ c.functions,
      ((Code.chars (Code.indent (Code.blank ++ f.code))).filter Signature.isHead).map nameInHead =
        [f.name.toList] :=
    fun f hf => f.filter_isHead_code (h.functions f hf).paren
  unfold declaredNames
  rw [lines_source h, Code.block]
  simp only [Code.indent_append, Code.chars_append, List.filter_append, hbefore, hopening, husing,
    hclosing, List.nil_append, List.append_nil]
  rw [Code.indent_flatMap, Code.chars_flatMap, List.filter_flatMap, List.map_flatMap,
    List.flatMap_congr hfunctions, ← List.map_eq_flatMap]

/-- The lines of the interface of a legible contract. -/
theorem lines_abi (h : c.Legible) :
    lines c.abi.toList =
      ("export interface " ++ c.typeName ++ " extends BaseContract \x7b").toList ::
        ((Code.indent (c.functions.flatMap TestFunction.member)).chars ++ ['\x7d'] :: [[]]) := by
  have hmembers : Code.Unbroken (c.functions.flatMap TestFunction.member) :=
    Code.unbroken_flatMap fun f hf => (h.functions f hf).member
  have hunbroken : Code.Unbroken (Code.block ("export interface " ++ c.typeName ++
      " extends BaseContract") (c.functions.flatMap TestFunction.member) ++ Code.blank) := by
    unfold typeName
    simp +decide [h.key, hmembers]
  unfold abi
  rw [Code.lines_render hunbroken]
  unfold Code.block Code.opening Code.closing Code.blank
  simp only [Code.chars_append, Code.chars_line, String.toList_append, List.append_assoc]
  rfl

/-- The interface of a legible contract has its functions for members. -/
theorem memberNames_abi (h : c.Legible) :
    memberNames c.abi.toList = c.functions.map fun f => f.name.toList := by
  -- The brace that closes the interface is the first line that is not indented.
  have hindented : ∀ line ∈ (Code.indent (c.functions.flatMap TestFunction.member)).chars,
      (line != ['\x7d']) = true := by
    intro line hline
    rw [bne_iff_ne]
    rintro rfl
    exact Code.not_inner_cons (by decide) _ (Code.inner_of_mem_chars_indent _ hline)
  have hmembers : ∀ f ∈ c.functions, (Code.indent f.member).chars.map nameInMember =
      [f.name.toList] := by
    intro f hf
    obtain ⟨rest, hrest⟩ := f.chars_indent_member
    have hname : ∀ ch ∈ f.name.toList, (ch != ':') = true := by
      intro ch hch
      rw [bne_iff_ne]
      rintro rfl
      exact (h.functions f hf).colon hch
    rw [hrest, List.map_singleton, nameInMember, List.drop_left' (by decide),
      takeWhile_append_cons hname (by decide)]
  unfold memberNames
  rw [lines_abi h, List.drop_one, List.tail_cons, takeWhile_append_cons hindented (by decide),
    Code.indent_flatMap, Code.chars_flatMap, List.map_flatMap, List.flatMap_congr hmembers,
    ← List.map_eq_flatMap]

end TestContract

end FheSolidity
