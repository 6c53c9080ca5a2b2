import FheSolidity.Output.Store
import Mathlib

/-!
# What writing does to a store

A write replaces the content at its path or adds a file as the last, and touches nothing else
(`StoredFile.put_eq`). So a store after some writes is known path by path: the new paths come last
in the order of their first writing (`map_path_writeAll`), and all that was not written is where it
was with the content it had (`getElem?_writeAll`). What was written at a path that no later write
goes to is there (`get?_writeAll_of_mem`), and writing the same once more changes nothing
(`writeAll_writeAll`).
-/

namespace FheSolidity

namespace StoredFile

/-! ## One file among others -/

/-- A file lies at the path with some components if it has these components. -/
theorem hasComponents_iff {file : StoredFile} {components : List PathStep} :
    file.hasComponents components = true ↔ file.components = components :=
  beq_iff_eq

/-- A file as a write leaves it: with the new content if it lies at the path that is written. -/
def overwrite (new file : StoredFile) : StoredFile :=
  if file.hasComponents new.components then { file with content := new.content } else file

/-- A write at another path leaves a file as it is. -/
theorem overwrite_of_ne {new file : StoredFile} (h : file.components ≠ new.components) :
    new.overwrite file = file :=
  if_neg (mt hasComponents_iff.1 h)

/-- A write at the path of a file sets its content. -/
theorem overwrite_of_eq {new file : StoredFile} (h : file.components = new.components) :
    new.overwrite file = { file with content := new.content } :=
  if_pos (hasComponents_iff.2 h)

/-- A write does not move a file. -/
@[simp] theorem path_overwrite (new file : StoredFile) : (new.overwrite file).path = file.path := by
  unfold overwrite
  split <;> rfl

/-- A write leaves every file in its place and adds one if there is none at its path. -/
theorem put_eq (new : StoredFile) {files : List StoredFile}
    (h : (files.map components).Nodup) :
    put new files = files.map new.overwrite ++
      if new.components ∈ files.map components then [] else [new] := by
  induction files with
  | nil => rfl
  | cons file files ih =>
    rw [List.map_cons, List.nodup_cons] at h
    by_cases hfile : file.components = new.components
    · -- The write stops here, and no later file lies at the same path.
      have hothers : files.map new.overwrite = files := by
        refine (List.map_congr_left ?_).trans (List.map_id files)
        intro other hother
        apply overwrite_of_ne
        intro heq
        exact h.1 (List.mem_map.2 ⟨other, hother, heq.trans hfile.symm⟩)
      have hmem : new.components ∈ (file :: files).map components :=
        List.mem_map.2 ⟨file, List.mem_cons_self, hfile⟩
      rw [put, if_pos (hasComponents_iff.2 hfile), List.map_cons, hothers, overwrite_of_eq hfile,
        if_pos hmem, List.append_nil]
    · rw [put, if_neg (mt hasComponents_iff.1 hfile), ih h.2, List.map_cons,
        overwrite_of_ne hfile, List.map_cons, List.cons_append]
      simp only [List.mem_cons, Ne.symm hfile, false_or]

end StoredFile

namespace Store

variable {s : Store} {path other : Path} {content : String}

/-! ## One write -/

/-- Stores with the same files are the same. -/
theorem ext_files {s s' : Store} (h : s.files = s'.files) : s = s' := by
  obtain ⟨files, hfiles⟩ := s
  obtain ⟨files', hfiles'⟩ := s'
  obtain rfl : files = files' := h
  rfl

/-- A path is in a store if a file of the store has its components. -/
def Holds (s : Store) (path : Path) : Prop :=
  path.components ∈ s.files.map StoredFile.components

/-- Whether a path is in a store can be found out. -/
instance (s : Store) : DecidablePred s.Holds :=
  fun path => inferInstanceAs (Decidable (path.components ∈ s.files.map StoredFile.components))

/-- The files of a store after a write. -/
theorem files_write (s : Store) (path : Path) (content : String) :
    (s.write path content).files = s.files.map (StoredFile.overwrite { path, content }) ++
      if s.Holds path then [] else [⟨path, content, path.components, rfl⟩] :=
  StoredFile.put_eq _ s.nodup_components

/-- A path that is written is in the store, and so is what was in it before. -/
theorem holds_write : (s.write path content).Holds other ↔
    other.components = path.components ∨ s.Holds other := by
  unfold Holds
  show other.components ∈ (StoredFile.put { path, content } s.files).map _ ↔ _
  rw [StoredFile.components_put]
  split
  · next h =>
    refine ⟨.inr, ?_⟩
    rintro (heq | hmem)
    · rw [heq]
      exact h
    · exact hmem
  · rw [List.mem_append, List.mem_singleton, or_comm]

/-- A write adds its path as the last if it is not there, and leaves the spelling of the others. -/
theorem map_path_write (s : Store) (path : Path) (content : String) :
    (s.write path content).files.map StoredFile.path =
      s.files.map StoredFile.path ++ if s.Holds path then [] else [path] := by
  rw [files_write, List.map_append, List.map_map]
  congr 1
  · apply List.map_congr_left
    intro file _
    exact StoredFile.path_overwrite _ file
  · split <;> rfl

/-- A file of a store after a write has the new content, or was there before and lies elsewhere. -/
theorem of_mem_files_write {file : StoredFile} (h : file ∈ (s.write path content).files) :
    (file.components = path.components ∧ file.content = content) ∨
      (file ∈ s.files ∧ file.components ≠ path.components) := by
  rw [files_write, List.mem_append] at h
  rcases h with h | h
  · obtain ⟨old, hold, rfl⟩ := List.mem_map.1 h
    by_cases hpath : old.components = path.components
    · rw [StoredFile.overwrite_of_eq hpath]
      exact .inl ⟨hpath, rfl⟩
    · rw [StoredFile.overwrite_of_ne hpath]
      exact .inr ⟨hold, hpath⟩
  · split at h
    · exact absurd h List.not_mem_nil
    · rw [List.mem_singleton.1 h]
      exact .inl ⟨rfl, rfl⟩

/-- A file of a store after a write has the path that is written, or one that was there before. -/
theorem path_of_mem_files_write {file : StoredFile} (h : file ∈ (s.write path content).files) :
    file.path = path ∨ ∃ old ∈ s.files, old.path = file.path := by
  have hpath : file.path ∈ (s.write path content).files.map StoredFile.path :=
    List.mem_map_of_mem h
  rw [map_path_write, List.mem_append] at hpath
  rcases hpath with hpath | hpath
  · exact .inr (List.mem_map.1 hpath)
  · split at hpath
    · exact absurd hpath List.not_mem_nil
    · exact .inl (List.mem_singleton.1 hpath)

/-- A file that lies elsewhere is in the same place after a write. -/
theorem getElem?_write {file : StoredFile} {i : Nat} (h : s.files[i]? = some file)
    (hpath : file.components ≠ path.components) :
    (s.write path content).files[i]? = some file := by
  have hlt : i < s.files.length := (List.getElem?_eq_some_iff.1 h).1
  rw [files_write, List.getElem?_append_left (by rw [List.length_map]; exact hlt),
    List.getElem?_map, h, Option.map_some, StoredFile.overwrite_of_ne hpath]

/-- The content at a path is that of the file with its components. -/
theorem get?_eq_some_iff {text : String} :
    s.get? path = some text ↔
      ∃ file ∈ s.files, file.components = path.components ∧ file.content = text := by
  unfold get?
  constructor
  · intro h
    obtain ⟨file, hfile, rfl⟩ := Option.map_eq_some_iff.1 h
    have hhas := List.find?_some hfile
    exact ⟨file, List.mem_of_find?_eq_some hfile, StoredFile.hasComponents_iff.1 hhas, rfl⟩
  · rintro ⟨file, hfile, hpath, rfl⟩
    rw [Option.map_eq_some_iff]
    -- No two files have the same components, so the file is the one that is found.
    cases hfound : s.files.find? fun file => file.hasComponents path.components with
    | none =>
      exact absurd (StoredFile.hasComponents_iff.2 hpath) (List.find?_eq_none.1 hfound file hfile)
    | some found =>
      have hhas := List.find?_some hfound
      have hcomponents : found.components = file.components :=
        (StoredFile.hasComponents_iff.1 hhas).trans hpath.symm
      have heq : found = file := List.inj_on_of_nodup_map s.nodup_components
        (List.mem_of_find?_eq_some hfound) hfile hcomponents
      exact ⟨found, rfl, by rw [heq]⟩

/-- There is content at the paths that are in a store and at no others. -/
theorem get?_eq_none_iff : s.get? path = none ↔ ¬s.Holds path := by
  rw [Option.eq_none_iff_forall_ne_some]
  unfold Holds
  rw [List.mem_map]
  constructor
  · rintro h ⟨file, hfile, hpath⟩
    exact h file.content (get?_eq_some_iff.2 ⟨file, hfile, hpath, rfl⟩)
  · intro h text htext
    obtain ⟨file, hfile, hpath, -⟩ := get?_eq_some_iff.1 htext
    exact h ⟨file, hfile, hpath⟩

/-- Writing at a path sets the content there and nowhere else. -/
theorem get?_write (s : Store) (path other : Path) (content : String) :
    (s.write path content).get? other =
      if other.components = path.components then some content else s.get? other := by
  split
  · next heq =>
    have hholds : (s.write path content).Holds other := holds_write.2 (.inl heq)
    obtain ⟨file, hfile, hpath⟩ := List.mem_map.1 hholds
    rw [get?_eq_some_iff]
    rcases of_mem_files_write hfile with ⟨-, hcontent⟩ | ⟨-, hne⟩
    · exact ⟨file, hfile, hpath, hcontent⟩
    · exact absurd (hpath.trans heq) hne
  · next hne =>
    apply Option.ext
    intro text
    rw [get?_eq_some_iff, get?_eq_some_iff]
    constructor
    · rintro ⟨file, hfile, hpath, hcontent⟩
      rcases of_mem_files_write hfile with ⟨heq, -⟩ | ⟨hold, -⟩
      · exact absurd (hpath.symm.trans heq) hne
      · exact ⟨file, hold, hpath, hcontent⟩
    · rintro ⟨file, hfile, hpath, hcontent⟩
      obtain ⟨i, hi⟩ := List.getElem?_of_mem hfile
      have hstays : (s.write path content).files[i]? = some file :=
        getElem?_write hi (fun heq => hne (hpath.symm.trans heq))
      exact ⟨file, List.mem_of_getElem? hstays, hpath, hcontent⟩

/-- Writing what is there already changes nothing. -/
theorem write_eq_self (h : s.get? path = some content) : s.write path content = s := by
  have hholds : s.Holds path := by
    by_contra hnot
    rw [get?_eq_none_iff.2 hnot] at h
    exact nomatch h
  apply ext_files
  rw [files_write, if_pos hholds, List.append_nil]
  refine (List.map_congr_left ?_).trans (List.map_id s.files)
  intro file hfile
  by_cases hpath : file.components = path.components
  · have hcontent : file.content = content := by
      have hget := get?_eq_some_iff.2 ⟨file, hfile, hpath, rfl⟩
      rw [h, Option.some.injEq] at hget
      exact hget.symm
    rw [StoredFile.overwrite_of_eq hpath, ← hcontent]
    rfl
  · exact StoredFile.overwrite_of_ne hpath

/-! ## Writes in a row -/

variable {files : List (Path × String)}

/-- Several files are written one after the other. -/
theorem writeAll_cons (s : Store) (path : Path) (content : String)
    (files : List (Path × String)) :
    s.writeAll ((path, content) :: files) = (s.write path content).writeAll files := rfl

/-- A path that none of the files has keeps its content. -/
theorem get?_writeAll_of_forall_ne (h : ∀ file ∈ files, other.components ≠ file.1.components) :
    (s.writeAll files).get? other = s.get? other := by
  induction files generalizing s with
  | nil => rfl
  | cons file files ih =>
    rw [List.forall_mem_cons] at h
    rw [writeAll_cons, ih h.2, get?_write, if_neg h.1]

/-- Every one of some files at different paths is there once all are written. -/
theorem get?_writeAll_of_mem (hpaths : (files.map fun file => file.1.components).Nodup)
    (h : (path, content) ∈ files) : (s.writeAll files).get? path = some content := by
  induction files generalizing s with
  | nil => exact absurd h List.not_mem_nil
  | cons file files ih =>
    rw [List.map_cons, List.nodup_cons] at hpaths
    rw [writeAll_cons]
    rcases List.mem_cons.1 h with rfl | h
    · -- The later files lie elsewhere.
      have hlater : ∀ file ∈ files, path.components ≠ file.1.components := by
        intro file hfile heq
        exact hpaths.1 (List.mem_map.2 ⟨file, hfile, heq.symm⟩)
      rw [get?_writeAll_of_forall_ne hlater, get?_write, if_pos rfl]
    · exact ih hpaths.2 h

/-- A file at none of the paths that are written stays in its place with its content. -/
theorem getElem?_writeAll {file : StoredFile} {i : Nat} (h : s.files[i]? = some file)
    (hpaths : ∀ new ∈ files, file.components ≠ new.1.components) :
    (s.writeAll files).files[i]? = some file := by
  induction files generalizing s with
  | nil => exact h
  | cons new files ih =>
    rw [List.forall_mem_cons] at hpaths
    rw [writeAll_cons]
    exact ih (getElem?_write h hpaths.1) hpaths.2

/-- The paths of a store after some files were written: those it had, and then those it had not, in
the order of their first writing. -/
theorem map_path_writeAll (s : Store) (files : List (Path × String)) :
    (s.writeAll files).files.map StoredFile.path = s.files.map StoredFile.path ++
      ((files.map Prod.fst).filter fun path => ¬s.Holds path).eraseDupsBy Path.same := by
  induction files generalizing s with
  | nil => exact (List.append_nil _).symm
  | cons file files ih =>
    obtain ⟨path, content⟩ := file
    rw [writeAll_cons, ih, map_path_write, List.append_assoc, List.map_cons]
    congr 1
    by_cases hholds : s.Holds path
    · -- The path was there, so the write brings in no path.
      have hlater : ∀ later : Path, (s.write path content).Holds later ↔ s.Holds later := by
        intro later
        rw [holds_write, or_iff_right_of_imp]
        intro heq
        unfold Holds
        rw [heq]
        exact hholds
      rw [if_pos hholds, List.filter_cons_of_neg (by simpa using hholds), List.nil_append]
      simp only [hlater]
    · -- The path is new, and it is passed over from now on.
      have hlater : ∀ later : Path, (!decide ((s.write path content).Holds later)) =
          (decide (later.same path = false) && !decide (s.Holds later)) := by
        intro later
        rw [Bool.eq_iff_iff]
        simp [holds_write, Path.same]
      rw [if_neg hholds, List.filter_cons_of_pos (by simpa using hholds), List.eraseDupsBy_cons,
        List.filter_filter]
      simp only [decide_not, hlater]
      rfl

/-- The paths in a store after several writes are those that are written and those before. -/
theorem holds_writeAll : (s.writeAll files).Holds other ↔
    (∃ file ∈ files, other.components = file.1.components) ∨ s.Holds other := by
  induction files generalizing s with
  | nil => simp [writeAll]
  | cons file files ih =>
    rw [writeAll_cons, ih, holds_write, List.exists_mem_cons_iff, or_assoc, or_left_comm]

/-- A file of a store after several writes has one of the paths that are written, or one that was
there before. -/
theorem path_of_mem_files_writeAll {file : StoredFile} (h : file ∈ (s.writeAll files).files) :
    (∃ new ∈ files, file.path = new.1) ∨ ∃ old ∈ s.files, old.path = file.path := by
  induction files generalizing s with
  | nil => exact .inr ⟨file, h, rfl⟩
  | cons first files ih =>
    rcases ih h with ⟨new, hnew, hpath⟩ | ⟨old, hold, hpath⟩
    · exact .inl ⟨new, List.mem_cons_of_mem _ hnew, hpath⟩
    · rcases path_of_mem_files_write hold with hfirst | hbefore
      · exact .inl ⟨first, List.mem_cons_self, hpath.symm.trans hfirst⟩
      · rw [hpath] at hbefore
        exact .inr hbefore

/-- Different paths stay when repeated ones are dropped. -/
theorem eraseDupsBy_same_eq_self {paths : List Path} (h : (paths.map Path.components).Nodup) :
    paths.eraseDupsBy Path.same = paths := by
  induction paths with
  | nil => rfl
  | cons path paths ih =>
    rw [List.map_cons, List.nodup_cons] at h
    have hothers : paths.filter (fun later => decide (later.same path = false)) = paths := by
      rw [List.filter_eq_self]
      intro later hlater
      unfold Path.same
      rw [decide_eq_true_eq, beq_eq_false_iff_ne]
      intro heq
      exact h.1 (List.mem_map.2 ⟨later, hlater, heq⟩)
    rw [List.eraseDupsBy_cons, hothers, ih h.2]

/-- Writing files that are all there changes nothing. -/
theorem writeAll_eq_self (h : ∀ file ∈ files, s.get? file.1 = some file.2) :
    s.writeAll files = s := by
  induction files with
  | nil => rfl
  | cons file files ih =>
    rw [List.forall_mem_cons] at h
    rw [writeAll_cons, write_eq_self h.1, ih h.2]

/-- Writing files at different paths a second time changes nothing. -/
theorem writeAll_writeAll (hpaths : (files.map fun file => file.1.components).Nodup) :
    (s.writeAll files).writeAll files = s.writeAll files :=
  writeAll_eq_self fun _ hfile => get?_writeAll_of_mem hpaths hfile

end Store

end FheSolidity
