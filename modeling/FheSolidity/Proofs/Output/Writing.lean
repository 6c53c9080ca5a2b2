import FheSolidity.Output.Store
import FheSolidity.Output.Writing
import FheSolidity.Proofs.Output.FileTree
import FheSolidity.Proofs.Output.Store

/-!
# Writing files to a tree and to a store

Files are written one after the other until one cannot be written. Then the regular files are those
that the files before it left (`FileTree.file?_writeAll_of_fault`): each of them set the content at
its location, and no other location changed (`FileTree.file?_writeAll`).

A tree mirrors a store if every file of the store is found in the tree under its path, with the same
content. One file that is written to both leaves the tree a mirror of the store
(`FileTree.Mirrors.write`), and so do any number of them (`FileTree.Mirrors.writeAll`).
-/

namespace FheSolidity

namespace FileTree

variable {t t' : FileTree} {s : Store} {path : Path} {content : String} {fault : FileFault}
  {files before after : List (Path × String)}

/-! ## Up to the first fault -/

/-- A file that is written leaves its event, and the others are written after it. -/
theorem writeAll_cons (h : t.write path content = (t', none)) (files : List (Path × String)) :
    t.writeAll ((path, content) :: files) =
      { t'.writeAll files with
        events := wroteEvent path content :: (t'.writeAll files).events } := by
  rw [writeAll, h]

/-- A file that cannot be written is the last that is tried. -/
theorem writeAll_cons_of_fault (h : t.write path content = (t', some fault))
    (files : List (Path × String)) :
    t.writeAll ((path, content) :: files) = ⟨t', [], some (path, fault)⟩ := by
  rw [writeAll, h]

/-- All files are written if the first is, and the others after it. -/
theorem fault_writeAll_cons_eq_none_iff :
    (t.writeAll ((path, content) :: files)).fault = none ↔
      ∃ t', t.write path content = (t', none) ∧ (t'.writeAll files).fault = none := by
  obtain ⟨t', fault?, hwrite⟩ : ∃ t' fault?, t.write path content = (t', fault?) := ⟨_, _, rfl⟩
  cases fault? with
  | none =>
    rw [writeAll_cons hwrite]
    constructor
    · intro h
      exact ⟨t', hwrite, h⟩
    · rintro ⟨t'', hwrite', h⟩
      obtain rfl : t' = t'' := congrArg Prod.fst (hwrite.symm.trans hwrite')
      exact h
  | some fault =>
    rw [writeAll_cons_of_fault hwrite, hwrite]
    refine iff_of_false (by simp) ?_
    rintro ⟨t'', hwrite', -⟩
    exact absurd (congrArg Prod.snd hwrite') (by simp)

/-- The regular files after some contents were set, each at the location that its path leads to. -/
def setContents (current : Location) (files : Location → Option ByteArray)
    (contents : List (Path × String)) : Location → Option ByteArray :=
  contents.foldl
    (fun files (path, content) =>
      Function.update files (path.location current) (some content.toUTF8)) files

/-- A location to which none of the paths leads keeps what it has. -/
theorem setContents_of_forall_ne {current loc : Location} {contents : List (Path × String)}
    (h : ∀ file ∈ contents, file.1.location current ≠ loc)
    (files : Location → Option ByteArray) :
    setContents current files contents loc = files loc := by
  induction contents generalizing files with
  | nil => rfl
  | cons file contents ih =>
    rw [List.forall_mem_cons] at h
    show setContents current (Function.update files _ _) contents loc = _
    rw [ih h.2, Function.update_of_ne h.1.symm]

/-- Files that are all written leave the current directory where it is. -/
theorem current_writeAll (h : (t.writeAll files).fault = none) :
    (t.writeAll files).tree.current = t.current := by
  induction files generalizing t with
  | nil => rfl
  | cons file files ih =>
    obtain ⟨path, content⟩ := file
    obtain ⟨t', hwrite, h⟩ := fault_writeAll_cons_eq_none_iff.1 h
    rw [writeAll_cons hwrite]
    exact (ih h).trans (current_of_write hwrite)

/-- Files that are all written set the contents at their locations, one after the other. -/
theorem file?_writeAll (h : (t.writeAll files).fault = none) :
    (t.writeAll files).tree.file? = setContents t.current t.file? files := by
  induction files generalizing t with
  | nil => rfl
  | cons file files ih =>
    obtain ⟨path, content⟩ := file
    obtain ⟨t', hwrite, h⟩ := fault_writeAll_cons_eq_none_iff.1 h
    rw [writeAll_cons hwrite]
    refine (ih h).trans ?_
    rw [current_of_write hwrite, file?_of_write hwrite]
    rfl

/-- Files that are all written leave an event each. -/
theorem events_writeAll (h : (t.writeAll files).fault = none) :
    (t.writeAll files).events = files.map fun (path, content) => wroteEvent path content := by
  induction files generalizing t with
  | nil => rfl
  | cons file files ih =>
    obtain ⟨path, content⟩ := file
    obtain ⟨t', hwrite, h⟩ := fault_writeAll_cons_eq_none_iff.1 h
    rw [writeAll_cons hwrite, List.map_cons]
    exact congrArg (wroteEvent path content :: ·) (ih h)

/-! ## Mirrors of stores -/

/-- A tree mirrors a store if every file of the store has a plain path, under which the tree has the
same content. -/
def Mirrors (t : FileTree) (s : Store) : Prop :=
  ∀ file ∈ s.files, file.path.Plain ∧ t.read file.path = .ok file.content

/-- Every tree mirrors a store without files. -/
theorem mirrors_empty (t : FileTree) : t.Mirrors {} :=
  fun _ h => absurd h List.not_mem_nil

/-- A file that is written to a store and to its mirror leaves the one a mirror of the other. -/
theorem Mirrors.write (h : t.Mirrors s) (hpath : path.Plain)
    (hwrite : t.write path content = (t', none)) : t'.Mirrors (s.write path content) := by
  intro file hfile
  rcases Store.of_mem_files_write hfile with ⟨hcomponents, hcontent⟩ | ⟨hold, hne⟩
  · -- The file has the new content, and its own spelling of the path if it was stored before.
    rw [file.components_eq] at hcomponents
    rw [hcontent]
    rcases Store.path_of_mem_files_write hfile with hnew | ⟨old, hold, hspelling⟩
    · rw [hnew]
      exact ⟨hpath, read_of_write hwrite⟩
    · obtain ⟨hplain, hread⟩ := h old hold
      rw [hspelling] at hplain hread
      refine ⟨hplain, ?_⟩
      rw [read_after_write hwrite hread,
        if_pos ((hplain.location_eq_iff hpath t.current).2 hcomponents)]
  · obtain ⟨hplain, hread⟩ := h file hold
    refine ⟨hplain, ?_⟩
    rw [file.components_eq] at hne
    rw [read_after_write hwrite hread,
      if_neg (mt (hplain.location_eq_iff hpath t.current).1 hne)]

/-- Files that are written to a store and all to its mirror leave the one a mirror of the other. -/
theorem Mirrors.writeAll (h : t.Mirrors s) (hpaths : ∀ file ∈ files, file.1.Plain)
    (hok : (t.writeAll files).fault = none) :
    (t.writeAll files).tree.Mirrors (s.writeAll files) := by
  induction files generalizing t s with
  | nil => exact h
  | cons file files ih =>
    obtain ⟨path, content⟩ := file
    rw [List.forall_mem_cons] at hpaths
    obtain ⟨t', hwrite, hok⟩ := fault_writeAll_cons_eq_none_iff.1 hok
    -- The first file keeps the mirror, and the others start from it.
    rw [writeAll_cons hwrite, Store.writeAll_cons]
    exact ih (h.write hpaths.1 hwrite) hpaths.2 hok

end FileTree

end FheSolidity
