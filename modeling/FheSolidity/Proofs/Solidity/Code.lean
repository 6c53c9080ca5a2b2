import FheSolidity.Solidity.Code
import FheSolidity.Proofs.Text.Lines

/-!
# The lines of rendered source

Source is rendered to the lines that it is built from, as long as the text of none of them has a
line break (`Code.lines_render`). Whether one has is found out from the parts the source is put
together from, and so is how deep its lines stand, which shows in the spaces they start with
(`Code.chars_eq_of_le_depth`).
-/

namespace FheSolidity

open Text

/-! ## Single lines -/

/-- A line of source as it is rendered, without the line break at its end. -/
def Line.chars (l : Line) : List Char :=
  if l.text = "" then [] else List.replicate (4 * l.depth) ' ' ++ l.text.toList

/-- A line that is not empty is its text behind its indentation. -/
theorem Line.chars_of_ne {l : Line} (h : l.text ≠ "") :
    l.chars = (indentation l.depth ++ l.text).toList := by
  unfold Line.chars indentation
  rw [if_neg h, String.toList_append, String.toList_ofList]

/-- A line is rendered to its characters and a line break. -/
theorem Line.toList_render (l : Line) : l.render.toList = l.chars ++ ['\n'] := by
  unfold Line.render Line.chars
  split
  · rfl
  · rw [String.toList_append, String.toList_append, indentation, String.toList_ofList]
    rfl

/-- Indentation does not break a line. -/
theorem Line.newline_not_mem_chars {l : Line} (h : Unbroken l.text) : '\n' ∉ l.chars := by
  unfold Line.chars
  split
  · exact List.not_mem_nil
  · intro hmem
    rcases List.mem_append.1 hmem with hmem | hmem
    · exact absurd (List.eq_of_mem_replicate hmem) (by decide)
    · exact h hmem

namespace Code

/-! ## Lines -/

/-- The lines of source as it is rendered. -/
def chars (code : Code) : List (List Char) :=
  code.map Line.chars

/-- Source whose lines have no line breaks. -/
def Unbroken (code : Code) : Prop :=
  ∀ l ∈ code, Text.Unbroken l.text

/-- Source put together has the lines of its parts. -/
@[simp] theorem chars_append (first second : Code) :
    chars (first ++ second) = chars first ++ chars second :=
  List.map_append

/-- Source is rendered line by line. -/
theorem toList_render_cons (l : Line) (code : Code) :
    (render (l :: code)).toList = l.chars ++ '\n' :: (render code).toList := by
  rw [render, List.map_cons, String.join_cons, String.toList_append, Line.toList_render,
    List.append_assoc]
  rfl

/-- A line without indentation is its text. -/
theorem chars_line (text : String) : chars (line text) = [text.toList] := by
  show [Line.chars ⟨0, text⟩] = _
  unfold Line.chars
  split
  · next hempty =>
    change text = "" at hempty
    rw [hempty]
    rfl
  · rfl

/-- A line without indentation is rendered to its text and a line break. -/
theorem render_line (text : String) : render (line text) = text ++ "\n" := by
  have hchars : Line.chars ⟨0, text⟩ = text.toList := (List.cons.inj (chars_line text)).1
  apply String.toList_injective
  rw [String.toList_append, line, toList_render_cons, hchars]
  rfl

/-- Source put together from a list has the lines of its pieces. -/
theorem chars_flatMap {α : Type} (f : α → Code) (list : List α) :
    chars (list.flatMap f) = list.flatMap fun a => chars (f a) :=
  List.map_flatMap

/-- Source put together is rendered part by part. -/
theorem render_append (first second : Code) :
    render (first ++ second) = render first ++ render second := by
  unfold render
  rw [List.map_append, String.join_append]

/-- Source put together from a list is rendered piece by piece. -/
theorem render_flatMap {α : Type} (f : α → Code) (list : List α) :
    render (list.flatMap f) = String.join (list.map fun a => (f a).render) := by
  induction list with
  | nil => rfl
  | cons a list ih => rw [List.flatMap_cons, render_append, ih, List.map_cons, String.join_cons]

/-- Text behind rendered source starts on a new line. -/
theorem lines_render_append (code : Code) (rest : List Char) :
    lines (code.render.toList ++ rest) = lines code.render.toList ++ lines rest := by
  induction code with
  | nil => rfl
  | cons l code ih =>
    rw [toList_render_cons, List.append_assoc, List.cons_append, lines_append_newline_append, ih,
      lines_append_newline_append l.chars (render code).toList, List.append_assoc]

/-- Unbroken source is rendered to its lines. -/
theorem lines_render {code : Code} (h : code.Unbroken) : lines code.render.toList = code.chars := by
  induction code with
  | nil => rfl
  | cons l code ih =>
    have hl : Text.Unbroken l.text := h l List.mem_cons_self
    have hcode : Code.Unbroken code := fun l' hl' => h l' (List.mem_cons_of_mem _ hl')
    rw [toList_render_cons, lines_append_newline (Line.newline_not_mem_chars hl), ih hcode]
    rfl

/-! ## Unbroken source -/

/-- Source put together is unbroken if its parts are. -/
@[simp] theorem unbroken_append {first second : Code} :
    Code.Unbroken (first ++ second) ↔ first.Unbroken ∧ second.Unbroken :=
  List.forall_mem_append

/-- Source put together from a list is unbroken if all of it is. -/
theorem unbroken_flatMap {α : Type} {list : List α} {f : α → Code}
    (h : ∀ a ∈ list, (f a).Unbroken) : Code.Unbroken (list.flatMap f) := by
  intro l hl
  obtain ⟨a, ha, hl⟩ := List.mem_flatMap.1 hl
  exact h a ha l hl

/-- A line is unbroken if its text is. -/
@[simp] theorem unbroken_line {text : String} : (line text).Unbroken ↔ Text.Unbroken text :=
  List.forall_mem_singleton

/-- An empty line is unbroken. -/
@[simp] theorem unbroken_blank : blank.Unbroken :=
  unbroken_line.2 (by decide)

/-- Indentation breaks no line. -/
@[simp] theorem unbroken_indent {code : Code} : (indent code).Unbroken ↔ code.Unbroken :=
  List.forall_mem_map

/-- A block is unbroken if its head and what is in it are. -/
@[simp] theorem unbroken_block {head : String} {body : Code} :
    (block head body).Unbroken ↔ Text.Unbroken head ∧ body.Unbroken := by
  have hopening : Text.Unbroken (head ++ " \x7b") ↔ Text.Unbroken head := by
    rw [Text.unbroken_append]
    exact and_iff_left (by decide)
  have hclosing : closing.Unbroken := unbroken_line.2 (by decide)
  unfold block opening
  rw [unbroken_append, unbroken_append, unbroken_line, unbroken_indent, hopening]
  exact and_iff_left hclosing

/-! ## Depths -/

/-- Source put together is indented by its parts. -/
@[simp] theorem indent_append (first second : Code) :
    indent (first ++ second) = indent first ++ indent second :=
  List.map_append

/-- Source put together from a list is indented piece by piece. -/
theorem indent_flatMap {α : Type} (f : α → Code) (list : List α) :
    indent (list.flatMap f) = list.flatMap fun a => indent (f a) :=
  List.map_flatMap

/-- The line that opens a block one level deep. -/
theorem chars_indent_opening (head : String) : chars (indent (opening head)) =
    ["    ".toList ++ head.toList ++ " \x7b".toList] := by
  have hne : head ++ " \x7b" ≠ "" := by simp
  show [Line.chars ⟨0 + 1, head ++ " \x7b"⟩] = _
  rw [Line.chars_of_ne hne, String.toList_append, String.toList_append, ← List.append_assoc]
  rfl

/-- Indented source stands one level deeper. -/
theorem succ_le_depth_of_mem_indent {code : Code} {n : Nat} (h : ∀ l ∈ code, n ≤ l.depth) :
    ∀ l ∈ indent code, n + 1 ≤ l.depth := by
  intro l hl
  obtain ⟨l', hl', rfl⟩ := List.mem_map.1 hl
  exact Nat.succ_le_succ (h l' hl')

/-- A line at some depth is empty or starts with the spaces of any lesser depth. -/
theorem chars_eq_of_le_depth {l : Line} {n : Nat} (h : n ≤ l.depth) :
    l.chars = [] ∨ ∃ rest, l.chars = List.replicate (4 * n) ' ' ++ rest := by
  unfold Line.chars
  split
  · exact .inl rfl
  · have hsplit : List.replicate (4 * l.depth) ' ' =
        List.replicate (4 * n) ' ' ++ List.replicate (4 * (l.depth - n)) ' ' := by
      rw [List.replicate_append_replicate]
      congr 1
      omega
    exact .inr ⟨_, by rw [hsplit, List.append_assoc]⟩

/-- Whether a line can stand inside a block: it is empty, or it is indented. -/
def Inner (line : List Char) : Prop :=
  line = [] ∨ ∃ rest, line = List.replicate 4 ' ' ++ rest

/-- The lines of indented source can stand inside a block. -/
theorem inner_of_mem_chars_indent {code : Code} : ∀ line ∈ (indent code).chars, Inner line := by
  intro line hline
  obtain ⟨l, hl, rfl⟩ := List.mem_map.1 hline
  have hdepth : 1 ≤ l.depth := succ_le_depth_of_mem_indent (fun l' _ => Nat.zero_le _) l hl
  exact chars_eq_of_le_depth hdepth

/-- The lines of indented source after an empty line can stand inside a block. -/
theorem inner_of_mem_chars_blank_append_indent {code : Code} :
    ∀ line ∈ (blank ++ indent code).chars, Inner line := by
  rw [chars_append, List.forall_mem_append]
  exact ⟨List.forall_mem_singleton.2 (.inl rfl), inner_of_mem_chars_indent⟩

/-- A line that starts with another character than a space cannot stand inside a block. -/
theorem not_inner_cons {c : Char} (h : c ≠ ' ') (line : List Char) : ¬Inner (c :: line) := by
  intro hinner
  rcases hinner with hinner | ⟨rest, hinner⟩
  · exact nomatch hinner
  · exact h (List.cons.inj hinner).1

end Code

end FheSolidity
