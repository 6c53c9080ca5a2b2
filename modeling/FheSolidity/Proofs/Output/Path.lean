import FheSolidity.Output.FileNode
import FheSolidity.Output.Path
import FheSolidity.Proofs.Text.Lines
import FheSolidity.Proofs.Text.Pieces

/-!
# Where paths lead

A name without slashes that is joined to a directory is one more step (`Path.steps_join`), and one
more component unless it is a dot (`Path.components_join`). Without links a path leads to the same
location in every tree, which its components tell (`Path.foldl_move_steps`). A plain path, which has
nothing but names for components, has them behind the location that it starts from, so two plain
paths lead to one location exactly if they are the same (`Path.Plain.location_eq_iff`). Relative
paths without dots are plain (`Path.Ordinary.plain`).
-/

namespace FheSolidity

open Text

namespace Path

variable {path directory : Path} {name : String}

/-! ## Joining a name -/

/-- A text without slashes is one piece. -/
theorem pieces_of_slash_not_mem (hname : '/' ∉ name.toList) :
    pieces (· == '/') name.toList = [name.toList] := by
  rw [pieces_eq_splitOnP]
  apply List.splitOnP_eq_singleton
  intro c hc
  rw [beq_eq_false_iff_ne]
  rintro rfl
  exact hname hc

/-- A name without slashes is its only segment. -/
theorem segments_mk (hname : '/' ∉ name.toList) : (Path.mk name).segments = [name] := by
  rw [segments, pieces_of_slash_not_mem hname, List.map_singleton, String.ofList_toList]

/-- A name without slashes does not start at the root. -/
theorem isAbsolute_mk (hname : '/' ∉ name.toList) : (Path.mk name).isAbsolute = false := by
  unfold isAbsolute
  rw [beq_eq_false_iff_ne]
  intro h
  exact hname (List.mem_of_mem_head? h)

/-- The last slash of a path separates its last segment from those before it. -/
theorem segments_of_toList_eq {front : List Char} (hname : '/' ∉ name.toList)
    (h : path.text.toList = front ++ '/' :: name.toList) :
    path.segments = (Path.mk (String.ofList front)).segments ++ [name] := by
  unfold segments
  rw [h, pieces_eq_splitOnP, List.splitOnP_append_cons (p := (· == '/')) _ _ (by decide),
    ← pieces_eq_splitOnP, ← pieces_eq_splitOnP, pieces_of_slash_not_mem hname, List.map_append,
    List.map_singleton, String.ofList_toList, String.toList_ofList]

/-- A path that ends with a slash has the segments of what is before it, and an empty one. -/
theorem segments_of_endsWithSlash {front : List Char} (h : path.text.toList = front ++ ['/']) :
    path.segments = (Path.mk (String.ofList front)).segments ++ [""] :=
  segments_of_toList_eq (List.not_mem_nil : '/' ∉ "".toList) h

/-- A path that goes on where another ends starts at the root if that one does. -/
theorem isAbsolute_of_toList_eq {rest : List Char} (hne : directory.text ≠ "")
    (h : path.text.toList = directory.text.toList ++ rest) :
    path.isAbsolute = directory.isAbsolute := by
  have hnil : directory.text.toList ≠ [] := by
    rw [ne_eq, String.toList_eq_nil_iff]
    exact hne
  unfold isAbsolute
  rw [h, List.head?_append_of_ne_nil _ hnil]

/-- One more segment is one more step, if empty segments are left out. -/
theorem steps_eq_append (habsolute : path.isAbsolute = directory.isAbsolute)
    (hsegments : (path.segments.filter fun segment => !segment.isEmpty) =
      (directory.segments.filter fun segment => !segment.isEmpty) ++ [name]) :
    path.steps = directory.steps ++ [.ofSegment name] := by
  unfold steps
  rw [habsolute, hsegments, List.map_append, List.append_assoc]
  rfl

/-- A name without slashes is joined with a slash if the directory has a text and does not end with
one already. -/
theorem join_eq (hname : '/' ∉ name.toList) :
    directory.join name =
      if directory.text = "" then ⟨name⟩
      else if directory.endsWithSlash then ⟨directory.text ++ name⟩
      else ⟨directory.text ++ "/" ++ name⟩ := by
  unfold join
  simp only [isAbsolute_mk hname, Bool.false_or, String.isEmpty_iff]

/-- A name without slashes is one more step behind a directory. -/
theorem steps_join (hname : '/' ∉ name.toList) (hne : name ≠ "") :
    (directory.join name).steps = directory.steps ++ [.ofSegment name] := by
  have hlast : [name].filter (fun segment => !segment.isEmpty) = [name] := by
    rw [List.filter_cons_of_pos (by simpa using hne)]
    rfl
  rw [join_eq hname]
  split
  · next hempty =>
    have hdirectory : directory = ⟨""⟩ := by
      rw [← hempty]
    rw [hdirectory]
    apply steps_eq_append
    · exact isAbsolute_mk hname
    · rw [segments_mk hname, hlast]
      rfl
  · next hnonempty =>
    split
    · next hslash =>
      obtain ⟨front, hfront⟩ : ∃ front, directory.text.toList = front ++ ['/'] := by
        unfold endsWithSlash at hslash
        exact List.getLast?_eq_some_iff.1 (beq_iff_eq.1 hslash)
      have htext : (directory.text ++ name).toList = front ++ '/' :: name.toList := by
        rw [String.toList_append, hfront, List.append_assoc]
        rfl
      apply steps_eq_append
      · exact isAbsolute_of_toList_eq hnonempty String.toList_append
      · -- The empty segment behind the last slash of the directory is left out.
        rw [segments_of_toList_eq hname htext, segments_of_endsWithSlash hfront,
          List.filter_append, List.filter_append, hlast]
        simp
    · have htext : (directory.text ++ "/" ++ name).toList =
          directory.text.toList ++ '/' :: name.toList := by
        rw [String.toList_append, String.toList_append, List.append_assoc]
        rfl
      apply steps_eq_append
      · exact isAbsolute_of_toList_eq hnonempty htext
      · rw [segments_of_toList_eq hname htext, List.filter_append, hlast, String.ofList_toList]

/-- A name without slashes that is no dot is one more component behind a directory. -/
theorem components_join (hname : '/' ∉ name.toList) (hne : name ≠ "") (hdot : name ≠ ".") :
    (directory.join name).components = directory.components ++ [.ofSegment name] := by
  have hstep : PathStep.ofSegment name ≠ .here := by
    unfold PathStep.ofSegment
    rw [if_neg hdot]
    split <;> simp
  unfold components
  rw [steps_join hname hne]
  cases directory.steps with
  | nil => rfl
  | cons first others =>
    show first :: (others ++ [PathStep.ofSegment name]).filter _ = _
    rw [List.filter_append, List.filter_cons_of_pos (by rw [bne_iff_ne]; exact hstep)]
    rfl

end Path

/-! ## Locations -/

/-- Where a step leads from a location if there are no links. -/
def PathStep.move (loc : Location) (step : PathStep) : Location :=
  match step with
  | root => []
  | here => loc
  | up => loc.dropLast
  | name s => loc ++ [s]

namespace Path

variable {path other directory : Path} {name : String}

/-- The location that a path leads to from another one if there are no links. -/
def location (current : Location) (path : Path) : Location :=
  path.components.foldl PathStep.move current

/-- The dots in a path lead nowhere. -/
theorem foldl_move_steps (current : Location) (path : Path) :
    path.steps.foldl PathStep.move current = path.location current := by
  unfold location components
  cases path.steps with
  | nil => rfl
  | cons first others =>
    show others.foldl PathStep.move (PathStep.move current first) =
      (others.filter (· != .here)).foldl PathStep.move (PathStep.move current first)
    generalize PathStep.move current first = loc
    induction others generalizing loc with
    | nil => rfl
    | cons step others ih =>
      by_cases hstep : step = .here
      · rw [List.filter_cons_of_neg (by simp [hstep]), ← ih, hstep]
        rfl
      · rw [List.filter_cons_of_pos (by simp [hstep]), List.foldl_cons, List.foldl_cons, ih]

/-- A path is plain if it has components, all of which are names. -/
def Plain (path : Path) : Prop :=
  path.components ≠ [] ∧ ∀ step ∈ path.components, ∃ name, step = .name name

/-- The steps to some names lead to them behind the location that they start from. -/
theorem foldl_move_name (current : Location) (names : List String) :
    (names.map PathStep.name).foldl PathStep.move current = current ++ names := by
  induction names generalizing current with
  | nil => exact (List.append_nil current).symm
  | cons name names ih =>
    rw [List.map_cons, List.foldl_cons, ih, PathStep.move, List.append_assoc]
    rfl

/-- The components of a plain path are the steps to some names. -/
theorem Plain.exists_names (h : path.Plain) :
    ∃ names : List String, path.components = names.map PathStep.name := by
  obtain ⟨-, h⟩ := h
  generalize path.components = components at h
  induction components with
  | nil => exact ⟨[], rfl⟩
  | cons step components ih =>
    rw [List.forall_mem_cons] at h
    obtain ⟨⟨name, rfl⟩, h⟩ := h
    obtain ⟨names, rfl⟩ := ih h
    exact ⟨name :: names, rfl⟩

/-- Two plain paths lead to one location exactly if they have the same components. -/
theorem Plain.location_eq_iff (hpath : path.Plain) (hother : other.Plain) (current : Location) :
    path.location current = other.location current ↔ path.components = other.components := by
  obtain ⟨names, hnames⟩ := hpath.exists_names
  obtain ⟨names', hnames'⟩ := hother.exists_names
  unfold location
  rw [hnames, hnames', foldl_move_name, foldl_move_name, List.append_right_inj]
  exact (List.map_injective_iff.2 fun _ _ h => PathStep.name.inj h).eq_iff.symm

/-! ## Ordinary paths -/

/-- A path is ordinary if it is relative, has a character and no line break, and no component of it
leads to where one is or to the directory above. -/
structure Ordinary (path : Path) : Prop where
  /-- The path has a character. -/
  nonempty : path.text ≠ ""
  /-- The path does not start at the root. -/
  relative : path.isAbsolute = false
  /-- The path has no line break. -/
  unbroken : Unbroken path.text
  /-- The path leads nowhere by a dot, and not up by two. -/
  named : .here ∉ path.components ∧ .up ∉ path.components

/-- Every component of a path is one of its steps. -/
theorem mem_steps_of_mem_components {step : PathStep} (h : step ∈ path.components) :
    step ∈ path.steps := by
  unfold components at h
  cases hsteps : path.steps with
  | nil =>
    rw [hsteps] at h
    exact absurd h List.not_mem_nil
  | cons first others =>
    rw [hsteps] at h
    rcases List.mem_cons.1 h with rfl | h
    · exact List.mem_cons_self
    · exact List.mem_cons_of_mem _ (List.mem_filter.1 h).1

/-- A relative path with a character has a component, since its first segment is not empty. -/
theorem components_ne_nil (hnonempty : path.text ≠ "") (hrelative : path.isAbsolute = false) :
    path.components ≠ [] := by
  obtain ⟨c, rest, hlist⟩ : ∃ c rest, path.text.toList = c :: rest := by
    apply List.exists_cons_of_ne_nil
    rw [ne_eq, String.toList_eq_nil_iff]
    exact hnonempty
  have hc : (c == '/') = false := by
    unfold isAbsolute at hrelative
    rw [hlist] at hrelative
    simpa using hrelative
  obtain ⟨piece, others, hpieces⟩ : ∃ piece others,
      pieces (· == '/') path.text.toList = (c :: piece) :: others := by
    rw [hlist, pieces, if_neg (by rw [hc]; exact Bool.false_ne_true)]
    split
    · exact ⟨[], [], rfl⟩
    · exact ⟨_, _, rfl⟩
  have hisEmpty : (String.ofList (c :: piece)).isEmpty = false := by
    rw [← Bool.not_eq_true, String.isEmpty_iff, ← String.toList_eq_nil_iff, String.toList_ofList]
    exact List.cons_ne_nil _ _
  have hsteps : path.steps ≠ [] := by
    unfold steps segments
    rw [hpieces, List.map_cons, List.filter_cons_of_pos (by rw [hisEmpty]; rfl), List.map_cons]
    exact List.append_ne_nil_of_right_ne_nil _ (List.cons_ne_nil _ _)
  unfold components
  cases hfirst : path.steps with
  | nil => exact absurd hfirst hsteps
  | cons first others => exact List.cons_ne_nil _ _

/-- An ordinary path is plain. -/
theorem Ordinary.plain (h : path.Ordinary) : path.Plain := by
  refine ⟨components_ne_nil h.nonempty h.relative, ?_⟩
  intro step hstep
  have hmem := mem_steps_of_mem_components hstep
  unfold steps at hmem
  rw [h.relative, if_neg Bool.false_ne_true, List.nil_append] at hmem
  obtain ⟨segment, -, rfl⟩ := List.mem_map.1 hmem
  obtain ⟨hhere, hup⟩ := h.named
  unfold PathStep.ofSegment at hstep ⊢
  split at hstep
  · exact absurd hstep hhere
  · split at hstep
    · exact absurd hstep hup
    · next hdot hdots =>
      rw [if_neg hdot, if_neg hdots]
      exact ⟨segment, rfl⟩

/-- Joining texts without line breaks gives a path without one. -/
theorem unbroken_join (hdirectory : Unbroken directory.text) (hname : Unbroken name) :
    Unbroken (directory.join name).text := by
  unfold join
  split
  · exact hname
  · split
    · exact unbroken_append.2 ⟨hdirectory, hname⟩
    · exact unbroken_append.2 ⟨unbroken_append.2 ⟨hdirectory, by decide⟩, hname⟩

end Path

end FheSolidity
