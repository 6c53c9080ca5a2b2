import FheSolidity.Output.FileTree
import FheSolidity.Proofs.Output.Path
import FheSolidity.Proofs.Traversal

/-!
# What writing does to a tree of files

A path that can be walked leads to the location that its components tell, whatever lies there
(`FileTree.location_of_walk`). Making a directory changes no regular file and leaves every directory
one (`FileTree.Grows`), whether or not it comes off, so a file that cannot be written leaves all
regular files as they are (`FileTree.grows_of_write_fault`). A file that is written changes the
content at its location and nowhere else (`FileTree.file?_of_write`). From then on it can be read
under its path, with the content that was last written at its location (`FileTree.read_of_write`,
`FileTree.read_after_write`).
-/

namespace FheSolidity

/-! ## Nodes below a node -/

namespace FileNode

variable {node new : FileNode} {loc other : Location} {entries : List (String × FileNode)}

/-- A location leads on from a directory through the node of its first name. -/
theorem get?_directory_cons (entries : List (String × FileNode)) (name : String) (loc : Location) :
    (directory entries).get? (name :: loc) =
      (entries.lookup name).bind fun below => below.get? loc := by
  cases hchild : entries.lookup name <;> simp [get?, hchild]

/-- The whole node is at the empty location. -/
@[simp] theorem get?_nil (node : FileNode) : node.get? [] = some node := by
  cases node <;> rfl

/-- A location in two parts leads to the second part below the first. -/
theorem get?_append (node : FileNode) (first second : Location) :
    node.get? (first ++ second) = (node.get? first).bind fun below => below.get? second := by
  induction first generalizing node with
  | nil => rw [List.nil_append, get?_nil, Option.bind_some]
  | cons name first ih =>
    cases node with
    | file content => rfl
    | directory entries =>
      rw [List.cons_append, get?_directory_cons, get?_directory_cons, Option.bind_assoc]
      simp only [ih]

/-- Something lies below directories only. -/
theorem exists_directory_of_get?_append {before after : Location} {name : String}
    {below : FileNode} (h : node.get? (before ++ name :: after) = some below) :
    ∃ entries, node.get? before = some (directory entries) := by
  rw [get?_append] at h
  obtain ⟨found, hfound, h⟩ := Option.bind_eq_some_iff.1 h
  cases found with
  | file content => exact nomatch h
  | directory entries => exact ⟨entries, hfound⟩

/-- Nothing is below a place with nothing or a file in it. -/
theorem get?_append_cons_eq_none (h : ∀ entries, node.get? loc ≠ some (directory entries))
    (name : String) (after : Location) : node.get? (loc ++ name :: after) = none := by
  cases hbelow : node.get? (loc ++ name :: after) with
  | none => rfl
  | some below =>
    obtain ⟨entries, hentries⟩ := exists_directory_of_get?_append hbelow
    exact absurd hentries (h entries)

/-- A directory stays one when something is put where there is no directory. -/
theorem exists_directory_get?_put (hloc : ∀ entries, node.get? loc ≠ some (directory entries))
    (h : node.get? other = some (directory entries)) :
    ∃ entries', (node.put loc new).get? other = some (directory entries') := by
  induction loc generalizing node other with
  | nil =>
    -- What is replaced is a file, and no directory is in a file.
    cases node with
    | directory old => exact absurd (by cases old <;> rfl) (hloc old)
    | file content => cases other <;> simp [get?] at h
  | cons name loc ih =>
    cases node with
    | file content => cases other <;> simp [get?] at h
    | directory old =>
      cases other with
      | nil => exact ⟨_, rfl⟩
      | cons step other =>
        rw [get?_directory_cons] at h
        simp only [put, get?_directory_cons, lookup_setEntry]
        by_cases hstep : step = name
        · rw [if_pos hstep]
          subst hstep
          obtain ⟨child, hchild, h⟩ := Option.bind_eq_some_iff.1 h
          simp only [get?_directory_cons, hchild, Option.bind_some] at hloc
          simp only [hchild, Option.bind_some]
          exact ih hloc h
        · rw [if_neg hstep]
          exact ⟨entries, h⟩

end FileNode

namespace FileTree

variable {t t' : FileTree} {place place' : Place} {path other : Path} {content : String}

/-! ## Regular files and directories -/

/-- The content of the regular file at a location, if there is one. -/
def file? (t : FileTree) (loc : Location) : Option ByteArray :=
  match t.root.get? loc with
  | some (.file content) => some content
  | _ => none

/-- A location has content if a regular file is there. -/
theorem file?_eq_some_iff {loc : Location} {bytes : ByteArray} :
    t.file? loc = some bytes ↔ t.root.get? loc = some (.file bytes) := by
  unfold file?
  split
  · next bytes' hfile => rw [hfile, Option.some.injEq, Option.some.injEq, FileNode.file.injEq]
  · next hnone =>
    refine iff_of_false (by simp) ?_
    intro h
    exact hnone bytes h

/-- A directory is at a location. -/
def HasDirectory (t : FileTree) (loc : Location) : Prop :=
  ∃ entries, t.root.get? loc = some (.directory entries)

/-- A tree has grown into another one if the other has the same regular files and at least the
directories. -/
structure Grows (t t' : FileTree) : Prop where
  /-- The current directory is the same. -/
  current : t'.current = t.current
  /-- The regular files are the same, with the same content. -/
  file? : t'.file? = t.file?
  /-- Every directory is still one. -/
  directory : ∀ loc, t.HasDirectory loc → t'.HasDirectory loc

/-- A tree has grown into itself. -/
theorem Grows.refl (t : FileTree) : t.Grows t :=
  ⟨rfl, rfl, fun _ h => h⟩

/-- Growth goes on. -/
theorem Grows.trans {t'' : FileTree} (h : t.Grows t') (h' : t'.Grows t'') : t.Grows t'' :=
  ⟨h'.current.trans h.current, h'.file?.trans h.file?,
    fun loc hloc => h'.directory loc (h.directory loc hloc)⟩

/-! ## Places -/

/-- A trail leads from the root of a tree through directories to what is at its end, if anything
is. -/
def Trails (t : FileTree) : List (FileNode × String) → Option FileNode → Prop
  | [], node? => node? = some t.root
  | (node, name) :: trail, node? =>
    t.Trails trail (some node) ∧ ∃ entries, node = .directory entries ∧ node? = entries.lookup name

/-- A place is in a tree if its trail leads to it. -/
def Has (t : FileTree) (place : Place) : Prop :=
  t.Trails place.trail place.node?

/-- The location of a place that lies in a directory. -/
theorem location_cons (node : FileNode) (name : String) (trail : List (FileNode × String))
    (node? : Option FileNode) :
    (Place.mk ((node, name) :: trail) node?).location = (Place.mk trail (some node)).location ++
      [name] := by
  unfold Place.location
  rw [List.map_cons, List.reverse_cons]

/-- What is at a place is what its location leads to. -/
theorem get?_location (h : t.Has place) : t.root.get? place.location = place.node? := by
  obtain ⟨trail, node?⟩ := place
  induction trail generalizing node? with
  | nil =>
    obtain rfl : node? = some t.root := h
    cases t.root <;> rfl
  | cons entry trail ih =>
    obtain ⟨node, name⟩ := entry
    obtain ⟨htrail, entries, rfl, rfl⟩ := h
    rw [location_cons, FileNode.get?_append, ih (some _) htrail, Option.bind_some,
      FileNode.get?_directory_cons]
    simp only [FileNode.get?_nil, Option.bind_fun_some]

/-- The way to a place leads through directories. -/
theorem exists_directory_of_location_eq (h : t.Has place) {before after : Location} {name : String}
    (hlocation : place.location = before ++ name :: after) : t.HasDirectory before := by
  obtain ⟨trail, node?⟩ := place
  cases trail with
  | nil => exact absurd hlocation (by simp [Place.location])
  | cons entry trail =>
    obtain ⟨node, last⟩ := entry
    obtain ⟨htrail, entries, rfl, -⟩ := h
    have habove : t.root.get? (Place.mk trail (some (.directory entries))).location =
        some (.directory entries) := get?_location htrail
    rw [location_cons] at hlocation
    -- Either the last name comes right behind, or the directory above the place lies further on.
    rcases List.eq_nil_or_concat after with rfl | ⟨after, name', rfl⟩
    · obtain ⟨hbefore, -⟩ := List.append_inj' hlocation rfl
      rw [← hbefore]
      exact ⟨entries, habove⟩
    · rw [List.concat_eq_append, ← List.cons_append, ← List.append_assoc] at hlocation
      obtain ⟨hbefore, -⟩ := List.append_inj' hlocation rfl
      rw [hbefore] at habove
      exact FileNode.exists_directory_of_get?_append habove

/-! ## Walking -/

/-- A step leads to the root from everywhere. The others lead from a directory: to the directory
itself, to the one above, or to what it has under a name that is not too long. -/
theorem step_eq_ok_iff {s : PathStep} :
    t.step place s = .ok place' ↔
      (s = .root ∧ place' = ⟨[], some t.root⟩) ∨
        ∃ entries, place.node? = some (.directory entries) ∧
          ((s = .here ∧ place' = place) ∨ (s = .up ∧ place' = place.above) ∨
            ∃ name, s = .name name ∧ name.utf8ByteSize ≤ nameLimit ∧
              place' = ⟨(.directory entries, name) :: place.trail, entries.lookup name⟩) := by
  constructor
  · intro h
    unfold step at h
    split at h
    · exact .inl ⟨rfl, (Except.ok.inj h).symm⟩
    · exact nomatch h
    · exact nomatch h
    · next entries hnode => exact .inr ⟨entries, hnode, .inl ⟨rfl, (Except.ok.inj h).symm⟩⟩
    · next entries hnode => exact .inr ⟨entries, hnode, .inr (.inl ⟨rfl, (Except.ok.inj h).symm⟩)⟩
    · next name entries hnode =>
      split at h
      · exact nomatch h
      · next hlimit =>
        exact .inr ⟨entries, hnode, .inr (.inr ⟨name, rfl, not_lt.1 hlimit,
          (Except.ok.inj h).symm⟩)⟩
  · rintro (⟨rfl, rfl⟩ | ⟨entries, hnode, hstep⟩)
    · rfl
    · unfold step
      rw [hnode]
      rcases hstep with ⟨rfl, rfl⟩ | ⟨rfl, rfl⟩ | ⟨name, rfl, hlimit, rfl⟩
      · rfl
      · rfl
      · exact if_neg (not_lt.2 hlimit)

/-- A step leads to a place in the tree. -/
theorem has_of_step {s : PathStep} (hplace : t.Has place) (h : t.step place s = .ok place') :
    t.Has place' := by
  obtain ⟨-, rfl⟩ | ⟨entries, hnode, ⟨-, rfl⟩ | ⟨-, rfl⟩ | ⟨name, -, -, rfl⟩⟩ :=
    step_eq_ok_iff.1 h
  · exact rfl
  · exact hplace
  · obtain ⟨trail, node?⟩ := place
    cases trail with
    | nil => exact hplace
    | cons entry trail => exact hplace.1
  · refine ⟨?_, entries, rfl, rfl⟩
    rw [← hnode]
    exact hplace

/-- A step leads to the location that it tells. -/
theorem location_of_step {s : PathStep} (h : t.step place s = .ok place') :
    place'.location = PathStep.move place.location s := by
  obtain ⟨rfl, rfl⟩ | ⟨entries, -, ⟨rfl, rfl⟩ | ⟨rfl, rfl⟩ | ⟨name, rfl, -, rfl⟩⟩ :=
    step_eq_ok_iff.1 h
  · rfl
  · rfl
  · obtain ⟨trail, node?⟩ := place
    cases trail with
    | nil => rfl
    | cons entry trail =>
      show _ = (Place.mk (entry :: trail) node?).location.dropLast
      rw [location_cons, List.dropLast_concat]
      rfl
  · exact location_cons _ _ _ _

/-- Steps lead to a place in the tree, at the location that they tell. -/
theorem has_of_foldlM_step {steps : List PathStep} (hplace : t.Has place)
    (h : steps.foldlM t.step place = .ok place') :
    t.Has place' ∧ place'.location = steps.foldl PathStep.move place.location := by
  induction steps generalizing place with
  | nil =>
    obtain rfl := Except.ok.inj h
    exact ⟨hplace, rfl⟩
  | cons s steps ih =>
    rw [List.foldlM_cons] at h
    obtain ⟨next, hnext, h⟩ := bind_eq_ok_iff.1 h
    rw [List.foldl_cons, ← location_of_step hnext]
    exact ih (has_of_step hplace hnext) h

/-- A step can be taken in a tree that has grown, from the same location. -/
theorem exists_step_of_directory (hdirectory : ∀ loc, t.HasDirectory loc → t'.HasDirectory loc)
    {grown : Place} (hplace : t.Has place) (hgrown : t'.Has grown)
    (hlocation : grown.location = place.location) {s : PathStep}
    (h : t.step place s = .ok place') : ∃ grown', t'.step grown s = .ok grown' := by
  obtain ⟨rfl, -⟩ | ⟨entries, hnode, hstep⟩ := step_eq_ok_iff.1 h
  · exact ⟨_, step_eq_ok_iff.2 (.inl ⟨rfl, rfl⟩)⟩
  · obtain ⟨entries', hentries'⟩ := hdirectory place.location
      ⟨entries, (get?_location hplace).trans hnode⟩
    have hnode' : grown.node? = some (.directory entries') := by
      rw [← get?_location hgrown, hlocation, hentries']
    -- The same step can be taken, though a name may now lead to something else.
    rcases hstep with ⟨rfl, -⟩ | ⟨rfl, -⟩ | ⟨name, rfl, hlimit, -⟩
    · exact ⟨_, step_eq_ok_iff.2 (.inr ⟨entries', hnode', .inl ⟨rfl, rfl⟩⟩)⟩
    · exact ⟨_, step_eq_ok_iff.2 (.inr ⟨entries', hnode', .inr (.inl ⟨rfl, rfl⟩)⟩)⟩
    · exact ⟨_, step_eq_ok_iff.2
        (.inr ⟨entries', hnode', .inr (.inr ⟨name, rfl, hlimit, rfl⟩)⟩)⟩

/-- Steps that can be taken in a tree can be taken in one that has grown, from the same location. -/
theorem exists_foldlM_step_of_directory
    (hdirectory : ∀ loc, t.HasDirectory loc → t'.HasDirectory loc) {grown : Place}
    {steps : List PathStep} (hplace : t.Has place) (hgrown : t'.Has grown)
    (hlocation : grown.location = place.location)
    (h : steps.foldlM t.step place = .ok place') :
    ∃ grown', steps.foldlM t'.step grown = .ok grown' := by
  induction steps generalizing place grown with
  | nil => exact ⟨grown, rfl⟩
  | cons s steps ih =>
    rw [List.foldlM_cons] at h
    obtain ⟨next, hnext, h⟩ := bind_eq_ok_iff.1 h
    -- The two walks may come by other nodes, but they stay at one location.
    obtain ⟨next', hnext'⟩ := exists_step_of_directory hdirectory hplace hgrown hlocation hnext
    have hsame : next'.location = next.location := by
      rw [location_of_step hnext, location_of_step hnext', hlocation]
    obtain ⟨last, hlast⟩ := ih (has_of_step hplace hnext) (has_of_step hgrown hnext') hsame h
    refine ⟨last, ?_⟩
    rw [List.foldlM_cons, hnext']
    exact hlast

/-- The root is a place in the tree. -/
theorem has_root (t : FileTree) : t.Has ⟨[], some t.root⟩ := rfl

/-- A walk leads to a place in the tree. -/
theorem has_of_walk {steps : List PathStep} (h : t.walk steps = .ok place) : t.Has place :=
  (has_of_foldlM_step t.has_root h).1

/-- A walk leads to the location that its steps tell from the current directory. -/
theorem location_of_walk {steps : List PathStep} (h : t.walk steps = .ok place) :
    place.location = steps.foldl PathStep.move t.current := by
  have hlocation := (has_of_foldlM_step t.has_root h).2
  rw [List.foldl_append, show (Place.mk [] (some t.root)).location = [] from rfl,
    Path.foldl_move_name, List.nil_append] at hlocation
  exact hlocation

/-- What is at the location of a path is what walking the path leads to. -/
theorem get?_of_walk (h : t.walk path.steps = .ok place) :
    t.root.get? (path.location t.current) = place.node? := by
  rw [← Path.foldl_move_steps, ← location_of_walk h, get?_location (has_of_walk h)]

/-- What can be walked in a tree can be walked in one with the same current directory that has at
least the directories. -/
theorem exists_walk_of_directory (hcurrent : t'.current = t.current)
    (hdirectory : ∀ loc, t.HasDirectory loc → t'.HasDirectory loc) {steps : List PathStep}
    (h : t.walk steps = .ok place) : ∃ place', t'.walk steps = .ok place' := by
  unfold walk at h ⊢
  rw [hcurrent]
  exact exists_foldlM_step_of_directory hdirectory t.has_root t'.has_root rfl h

/-! ## Putting something at a place -/

/-- A directory stays one when something is put at a place without a directory. -/
theorem hasDirectory_put (hplace : t.Has place)
    (hfree : ∀ entries, place.node? ≠ some (.directory entries)) (node : FileNode)
    (loc : Location) (h : t.HasDirectory loc) : (t.put place node).HasDirectory loc := by
  obtain ⟨entries, hentries⟩ := h
  refine FileNode.exists_directory_get?_put ?_ hentries
  intro entries
  rw [get?_location hplace]
  exact hfree entries

/-- What is put at a place without a directory changes the regular file there and no other. -/
theorem file?_put_eq_some_iff (hplace : t.Has place)
    (hfree : ∀ entries, place.node? ≠ some (.directory entries)) {node : FileNode}
    (hnode : ∀ name after, node.get? (name :: after) = none) {loc : Location} {bytes : ByteArray} :
    (t.put place node).file? loc = some bytes ↔
      if loc = place.location then node = .file bytes else t.file? loc = some bytes := by
  rw [file?_eq_some_iff, file?_eq_some_iff]
  refine FileNode.get?_put_eq_file_iff ?_ ?_ hnode
  · intro before name after hlocation
    exact exists_directory_of_location_eq hplace hlocation
  · apply FileNode.get?_append_cons_eq_none
    intro entries
    rw [get?_location hplace]
    exact hfree entries

/-- A new directory is no regular file. -/
theorem grows_put_directory (hplace : t.Has place) (hnone : place.node? = none) :
    t.Grows (t.put place (.directory [])) := by
  have hfree : ∀ entries, place.node? ≠ some (.directory entries) := by
    intro entries
    rw [hnone]
    exact nofun
  refine ⟨rfl, ?_, hasDirectory_put hplace hfree _⟩
  funext loc
  apply Option.ext
  intro bytes
  rw [file?_put_eq_some_iff hplace hfree (fun _ _ => rfl)]
  split
  · next hloc =>
    refine iff_of_false (by simp) ?_
    rw [file?_eq_some_iff, hloc, get?_location hplace, hnone]
    exact nofun
  · exact Iff.rfl

/-- A file that is put at a place is the regular file there, and all others stay. -/
theorem file?_put_file (hplace : t.Has place)
    (hfree : ∀ entries, place.node? ≠ some (.directory entries)) (bytes : ByteArray) :
    (t.put place (.file bytes)).file? = Function.update t.file? place.location (some bytes) := by
  funext loc
  apply Option.ext
  intro bytes'
  rw [file?_put_eq_some_iff hplace hfree (fun _ _ => rfl), Function.update_apply]
  split
  · rw [FileNode.file.injEq, Option.some.injEq]
  · exact Iff.rfl

/-! ## Making directories -/

/-- A directory that is made is put where there was nothing. -/
theorem grows_of_makeDirectory (h : t.makeDirectory path = .ok t') : t.Grows t' := by
  unfold makeDirectory locate at h
  obtain ⟨place, hplace, h⟩ := bind_eq_ok_iff.1 h
  obtain ⟨⟨⟩, -, hplace⟩ := bind_eq_ok_iff.1 hplace
  split at h
  · next hnew =>
    obtain rfl := Except.ok.inj h
    rw [Bool.and_eq_true, Option.isNone_iff_eq_none] at hnew
    exact grows_put_directory (has_of_walk hplace) hnew.2
  · exact nomatch h

/-- Making a missing directory changes no regular file, even if it fails. -/
theorem grows_makeMissing (t : FileTree) (path : Path) : t.Grows (t.makeMissing path).1 := by
  unfold makeMissing
  split
  · next h => exact grows_of_makeDirectory h
  · exact .refl t

/-- Making several directories changes no regular file, even if one of them fails. -/
theorem grows_makeDirectories (t : FileTree) (stages : List Stage) :
    t.Grows (t.makeDirectories stages).1 := by
  induction stages with
  | nil => exact .refl t
  | cons stage above ih =>
    unfold makeDirectories
    split
    · split
      · next habove =>
        rw [habove] at ih
        exact ih.trans (grows_makeMissing _ _)
      · exact ih
    · exact grows_makeMissing t _

/-! ## Reading and storing -/

/-- A path can name a file in a tree: the system takes it, it does not ask for a directory, and it
can be walked. -/
structure Opens (t : FileTree) (path : Path) : Prop where
  /-- The path leads somewhere. -/
  steps : path.steps.isEmpty = false
  /-- The system takes the path. -/
  admitted : checkPath path = .ok ()
  /-- The path does not ask for a directory. -/
  slash : path.endsWithSlash = false
  /-- The path can be walked. -/
  walk : ∃ place, t.walk path.steps = .ok place

/-- A path still opens in a tree with the same current directory that has at least the
directories. -/
theorem Opens.of_directory (h : t.Opens path) (hcurrent : t'.current = t.current)
    (hdirectory : ∀ loc, t.HasDirectory loc → t'.HasDirectory loc) : t'.Opens path where
  steps := h.steps
  admitted := h.admitted
  slash := h.slash
  walk := by
    obtain ⟨place, hplace⟩ := h.walk
    exact exists_walk_of_directory hcurrent hdirectory hplace

/-- A text is read back from its bytes. -/
theorem fromUTF8?_toUTF8 (text : String) : String.fromUTF8? text.toUTF8 = some text := by
  unfold String.fromUTF8?
  rw [String.toUTF8_eq_toByteArray, dif_pos text.isValidUTF8]
  rfl

/-- The bytes that are read as a text are those of the text. -/
theorem toUTF8_of_fromUTF8? {bytes : ByteArray} {text : String}
    (h : String.fromUTF8? bytes = some text) : bytes = text.toUTF8 := by
  unfold String.fromUTF8? at h
  split at h
  · rw [← Option.some.inj h]
    rfl
  · exact nomatch h

/-- A text can be read under a path exactly if the path opens and the text is that of the regular
file at its location. -/
theorem read_eq_ok_iff {text : String} :
    t.read path = .ok text ↔
      t.Opens path ∧ t.file? (path.location t.current) = some text.toUTF8 := by
  unfold read locate
  constructor
  · intro h
    split at h
    · exact nomatch h
    · next hsteps =>
      obtain ⟨place, hplace, h⟩ := bind_eq_ok_iff.1 h
      obtain ⟨⟨⟩, hpath, hplace⟩ := bind_eq_ok_iff.1 hplace
      split at h
      · exact nomatch h
      · exact nomatch h
      · next bytes hnode =>
        split at h
        · exact nomatch h
        · next hslash =>
          split at h
          · next text' htext =>
            obtain rfl := Except.ok.inj h
            refine ⟨⟨by simpa using hsteps, hpath, by simpa using hslash, place, hplace⟩, ?_⟩
            rw [file?_eq_some_iff, get?_of_walk hplace, hnode, toUTF8_of_fromUTF8? htext]
          · exact nomatch h
  · rintro ⟨⟨hsteps, hpath, hslash, place, hplace⟩, hfile⟩
    rw [file?_eq_some_iff, get?_of_walk hplace] at hfile
    have hopened : (checkPath path >>= fun _ => t.walk path.steps) = .ok place := by
      rw [hpath]
      exact hplace
    rw [if_neg (by rw [hsteps]; exact Bool.false_ne_true), hopened]
    simp only [bind, Except.bind, hfile, hslash, fromUTF8?_toUTF8, Bool.false_eq_true, if_false]

/-- A file that is stored is put at the place that its path names, where there is no directory. -/
theorem of_store_eq_ok (h : t.store path content = .ok t') :
    t.Opens path ∧ ∃ place, t.walk path.steps = .ok place ∧
      (∀ entries, place.node? ≠ some (.directory entries)) ∧
        t' = t.put place (.file content.toUTF8) := by
  unfold store at h
  split at h
  · exact nomatch h
  · next hsteps =>
    obtain ⟨⟨⟩, hpath, h⟩ := bind_eq_ok_iff.1 h
    split at h
    · obtain ⟨place, -, h⟩ := bind_eq_ok_iff.1 h
      exact nomatch h
    · next hends =>
      obtain ⟨place, hplace, h⟩ := bind_eq_ok_iff.1 h
      rw [Bool.or_eq_true, not_or] at hends
      split at h
      · exact nomatch h
      · next hfree =>
        obtain rfl := Except.ok.inj h
        exact ⟨⟨by simpa using hsteps, hpath, by simpa using hends.1, place, hplace⟩,
          place, hplace, hfree, rfl⟩

/-! ## Writing -/

/-- A file that is written was stored in a tree with the directories that its path asks for. -/
theorem exists_store_of_write (h : t.write path content = (t', none)) :
    ∃ made, t.Grows made ∧ made.store path content = .ok t' := by
  have hgrows := t.grows_makeDirectories path.directories.reverse
  unfold write at h
  split at h
  · next made hmade =>
    rw [hmade] at hgrows
    split at h
    · next hstore =>
      obtain ⟨rfl, -⟩ := Prod.mk.inj h
      exact ⟨made, hgrows, hstore⟩
    · exact nomatch h
  · next hfailed =>
    exact absurd h (hfailed t')

/-- Writing a file keeps the current directory. -/
theorem current_of_write (h : t.write path content = (t', none)) : t'.current = t.current := by
  obtain ⟨made, hgrows, hstore⟩ := exists_store_of_write h
  obtain ⟨-, place, -, -, rfl⟩ := of_store_eq_ok hstore
  exact hgrows.current

/-- Every directory is still one after a file was written. -/
theorem hasDirectory_of_write (h : t.write path content = (t', none)) (loc : Location)
    (hloc : t.HasDirectory loc) : t'.HasDirectory loc := by
  obtain ⟨made, hgrows, hstore⟩ := exists_store_of_write h
  obtain ⟨-, place, hplace, hfree, rfl⟩ := of_store_eq_ok hstore
  exact hasDirectory_put (has_of_walk hplace) hfree _ loc (hgrows.directory loc hloc)

/-- Writing a file sets the content at its location and nowhere else. -/
theorem file?_of_write (h : t.write path content = (t', none)) :
    t'.file? = Function.update t.file? (path.location t.current) (some content.toUTF8) := by
  obtain ⟨made, hgrows, hstore⟩ := exists_store_of_write h
  obtain ⟨-, place, hplace, hfree, rfl⟩ := of_store_eq_ok hstore
  rw [file?_put_file (has_of_walk hplace) hfree, hgrows.file?, location_of_walk hplace,
    hgrows.current, Path.foldl_move_steps]

/-- A file that was written can be read. -/
theorem read_of_write (h : t.write path content = (t', none)) : t'.read path = .ok content := by
  obtain ⟨made, hgrows, hstore⟩ := exists_store_of_write h
  have hfile := file?_of_write h
  have hcurrent := current_of_write h
  obtain ⟨hopens, place, hplace, hfree, rfl⟩ := of_store_eq_ok hstore
  rw [read_eq_ok_iff, hcurrent, hfile, Function.update_self]
  exact ⟨hopens.of_directory rfl (hasDirectory_put (has_of_walk hplace) hfree _), rfl⟩

/-- A file that could be read can be read after another was written, and has the new content if its
path leads to the same location. -/
theorem read_after_write {text : String} (h : t.write path content = (t', none))
    (hread : t.read other = .ok text) :
    t'.read other = .ok (if other.location t.current = path.location t.current then content
      else text) := by
  obtain ⟨hopens, hfile⟩ := read_eq_ok_iff.1 hread
  rw [read_eq_ok_iff, current_of_write h, file?_of_write h, Function.update_apply]
  refine ⟨hopens.of_directory (current_of_write h) (hasDirectory_of_write h), ?_⟩
  split
  · rfl
  · exact hfile

end FileTree

end FheSolidity
