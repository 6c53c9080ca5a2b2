import FheSolidity.Proofs.Command.ErrorStream
import FheSolidity.Proofs.Command.Run
import FheSolidity.Proofs.Generation.Record
import FheSolidity.Proofs.Output.Layout

/-!
# Dry runs

A dry run stores the artifacts in memory where a run writes them to the files. The tree that the run
leaves mirrors the store of the dry run, since every path that is written is plain
(`Artifacts.plain_of_mem_files`). So the lines that the dry run prints tell the paths that the run
writes and how much is in them afterwards (`dryRun_predicts_run`).
-/

namespace FheSolidity

open Text

/-! ## Ordinary layouts -/

/-- A layout is ordinary if all its paths are. -/
structure OutputLayout.Ordinary (layout : OutputLayout) : Prop where
  /-- The path of the library is ordinary. -/
  library : layout.library.Ordinary
  /-- The directory of the contracts is ordinary. -/
  contractsDirectory : layout.contractsDirectory.Ordinary
  /-- The path of the interface module is ordinary. -/
  abi : layout.abi.Ordinary

namespace Artifacts

variable {a : Artifacts} {layout : OutputLayout}

/-- What is true of the library, of the contracts and of the interface module is true of all
files of a generation. -/
theorem forall_path_files {p : Path → Prop} (hlibrary : p layout.library)
    (hcontracts : ∀ key ∈ a.contracts.map TestContract.key, p (layout.contractPath key))
    (habi : p layout.abi) : ∀ file ∈ a.files layout, p file.1 := by
  intro file hfile
  have hpath : file.1 ∈ (a.files layout).map Prod.fst := List.mem_map_of_mem hfile
  rw [map_fst_files, List.mem_append, List.mem_cons, List.mem_singleton] at hpath
  rcases hpath with (hpath | hpath) | hpath
  · rw [hpath]
    exact hlibrary
  · obtain ⟨c, hc, hpath⟩ := List.mem_map.1 hpath
    rw [← hpath]
    exact hcontracts c.key (List.mem_map_of_mem hc)
  · rw [hpath]
    exact habi

/-- All files of a generation lie at plain paths under an ordinary layout if no key has a slash. -/
theorem plain_of_mem_files (hlayout : layout.Ordinary)
    (hkeys : ∀ key ∈ a.contracts.map TestContract.key, '/' ∉ key.toList) :
    ∀ file ∈ a.files layout, file.1.Plain :=
  forall_path_files hlayout.library.plain
    (fun key hkey => layout.plain_contractPath hlayout.contractsDirectory.plain (hkeys key hkey))
    hlayout.abi.plain

/-- No path of a file of a generation has a line break under an ordinary layout if no key has
one. -/
theorem unbroken_of_mem_files (hlayout : layout.Ordinary)
    (hkeys : ∀ key ∈ a.contracts.map TestContract.key, Unbroken key) :
    ∀ file ∈ a.files layout, Unbroken file.1.text :=
  forall_path_files (p := fun path => Unbroken path.text) hlayout.library.unbroken
    (fun key hkey => layout.unbroken_contractPath hlayout.contractsDirectory.unbroken
      (hkeys key hkey))
    hlayout.abi.unbroken

end Artifacts

/-! ## What a run reports -/

namespace Note

/-- The path of the file that a note reports as written. -/
def writtenPath? : Note → Option Path
  | event (.wrote path _) => some ⟨path⟩
  | _ => none

/-- The line for the user that a note is. -/
def userLine? : Note → Option String
  | line text => some text
  | event _ => none

end Note

namespace Report

/-- The paths of the files that a run reports as written, in order. -/
def written (report : Report) : List Path :=
  report.notes.filterMap Note.writtenPath?

/-- The lines for the user that a run reports. -/
def userLines (report : Report) : List String :=
  report.notes.filterMap Note.userLine?

/-- What a run writes to the error stream. -/
def errors (report : Report) (filter : LogFilter) : String :=
  String.join (report.notes.map (Note.render filter))

end Report

/-- The events of a generation are about operations of the metadata. -/
theorem events_of_generate {ops : List Operation} {a : Artifacts}
    (h : (generate ops).outcome = .ok a) {event : Event} (hevent : event ∈ (generate ops).events) :
    ∃ op ∈ ops, event = .untested op.name op.params ∨
      event = .expanded op.name op.overloads.length := by
  rw [events_generate h] at hevent
  obtain ⟨op, hop, hevent⟩ := List.mem_flatMap.1 hevent
  refine ⟨op, hop, ?_⟩
  rcases List.mem_append.1 hevent with hevent | hevent
  · split at hevent
    · exact .inl (List.mem_singleton.1 hevent)
    · exact absurd hevent List.not_mem_nil
  · exact .inr (List.mem_singleton.1 hevent)

namespace Options

variable {o : Options} {t : FileTree}

/-- The same options for a dry run. -/
def dry (o : Options) : Options :=
  { o with dryRun := true }

/-- A run that neither lists overloads nor is dry succeeds only if it generates artifacts and writes
them all. -/
theorem generated_of_exit_eq_zero (hlist : o.list = false) (hdry : o.dryRun = false)
    (h : (o.run t).exit = 0) :
    ∃ ops a, operationsOf o.metadata (t.read o.metadata) = .ok ops ∧
      (generate ops).outcome = .ok a ∧ (t.writeAll (a.files o.layout)).fault = none := by
  obtain ⟨fault, hfails⟩ | ⟨ops, hops, ⟨hlist', -⟩ | ⟨-, a, hgenerate⟩⟩ := o.failsEarly_or_goesOn t
  · obtain ⟨notes, hrun⟩ := run_of_failsEarly hfails
    rw [hrun] at h
    exact nomatch h
  · exact absurd (hlist.symm.trans hlist') Bool.false_ne_true
  · refine ⟨ops, a, hops, hgenerate, ?_⟩
    have hrun := run_of_generate_ok hops hlist hdry hgenerate
    dsimp only at hrun
    cases hfault : (t.writeAll (a.files o.layout)).fault with
    | none => rfl
    | some stop =>
      obtain ⟨path, fault⟩ := stop
      rw [hfault] at hrun
      rw [hrun] at h
      exact nomatch h

/-- The report of a run that writes all that it generates. -/
theorem run_of_writeAll {ops : List Operation} {a : Artifacts} (hlist : o.list = false)
    (hdry : o.dryRun = false) (hops : operationsOf o.metadata (t.read o.metadata) = .ok ops)
    (hgenerate : (generate ops).outcome = .ok a)
    (hfault : (t.writeAll (a.files o.layout)).fault = none) :
    o.run t = ⟨0, a.importHelper,
      o.loadedNote ops :: (generate ops).events.map .event ++
        (a.files o.layout).map fun file => .event (wroteEvent file.1 file.2),
      (t.writeAll (a.files o.layout)).tree⟩ := by
  have hrun := run_of_generate_ok hops hlist hdry hgenerate
  dsimp only at hrun
  rw [hfault, FileTree.events_writeAll hfault, List.map_map] at hrun
  exact hrun

/-- A run that writes all that it generates reports the paths of all files. -/
theorem written_run {ops : List Operation} {a : Artifacts} (hlist : o.list = false)
    (hdry : o.dryRun = false) (hops : operationsOf o.metadata (t.read o.metadata) = .ok ops)
    (hgenerate : (generate ops).outcome = .ok a)
    (hfault : (t.writeAll (a.files o.layout)).fault = none) :
    (o.run t).written = (a.files o.layout).map Prod.fst := by
  have hevents : ((generate ops).events.map Note.event).filterMap Note.writtenPath? = [] := by
    rw [List.filterMap_map, List.filterMap_eq_nil_iff]
    intro event hevent
    obtain ⟨op, -, rfl | rfl⟩ := events_of_generate hgenerate hevent <;> rfl
  have hfiles : ((a.files o.layout).map fun file =>
      Note.event (wroteEvent file.1 file.2)).filterMap Note.writtenPath? =
        (a.files o.layout).map Prod.fst := by
    rw [List.filterMap_map]
    exact List.filterMap_eq_map_iff_forall_eq_some.2 fun file _ => rfl
  rw [run_of_writeAll hlist hdry hops hgenerate hfault]
  show (o.loadedNote ops :: (generate ops).events.map Note.event ++ _).filterMap _ = _
  rw [List.filterMap_append, List.filterMap_cons_none rfl, hevents, hfiles]
  rfl

/-- The lines for the user in the report of a dry run are those about the stored files, and one that
sums them up. -/
theorem userLines_dryRun {ops : List Operation} {a : Artifacts} (hlist : o.list = false)
    (hdry : o.dryRun = true) (hops : operationsOf o.metadata (t.read o.metadata) = .ok ops)
    (hgenerate : (generate ops).outcome = .ok a) :
    (o.run t).userLines =
      ((Store.writeAll {} (a.files o.layout)).files.map fun file =>
        Plan.wouldWrite file.path file.content) ++
        [Plan.summary a (Store.writeAll {} (a.files o.layout))] := by
  have hevents : ((generate ops).events.map Note.event).filterMap Note.userLine? = [] := by
    rw [List.filterMap_map, List.filterMap_eq_nil_iff]
    exact fun event _ => rfl
  have hfiles : ((Store.writeAll {} (a.files o.layout)).files.map fun file =>
      Note.line (Plan.wouldWrite file.path file.content)).filterMap Note.userLine? =
        (Store.writeAll {} (a.files o.layout)).files.map fun file =>
          Plan.wouldWrite file.path file.content := by
    rw [List.filterMap_map]
    exact List.filterMap_eq_map_iff_forall_eq_some.2 fun file _ => rfl
  rw [run_of_dryRun hops hlist hdry hgenerate]
  show (o.loadedNote ops :: (generate ops).events.map Note.event ++ (_ ++ _)).filterMap _ = _
  rw [List.filterMap_append, List.filterMap_cons_none rfl, hevents, List.filterMap_append, hfiles]
  rfl

end Options

/-! ## The lines of a dry run -/

/-- How a line starts that tells what would be written. -/
def wouldWriteStart : List Char :=
  "would write ".toList

/-- A line that starts with another letter does not tell what would be written. -/
theorem not_wouldWriteStart_prefix {line rest : List Char} {c : Char} (h : line = c :: rest)
    (hc : c ≠ 'w') : ¬wouldWriteStart <+: line := by
  rw [h]
  show ¬('w' :: "ould write ".toList) <+: c :: rest
  rw [List.cons_prefix_cons]
  exact fun hprefix => hc hprefix.1.symm

/-- No log line tells what would be written: it starts with the name of a level. -/
theorem not_wouldWriteStart_prefix_line (event : Event) :
    ¬wouldWriteStart <+: event.line.toList := by
  obtain ⟨rest, hline⟩ := event.exists_line_eq
  obtain ⟨c, name, hlabel, hc⟩ : ∃ c name, event.level.label.toList = c :: name ∧ c ≠ 'w' := by
    cases event.level <;> exact ⟨_, _, rfl, by decide⟩
  rw [hline, String.toList_append, hlabel]
  exact not_wouldWriteStart_prefix rfl hc

/-- The line that sums up a dry run does not tell what would be written: it starts with a digit. -/
theorem not_wouldWriteStart_prefix_summary (a : Artifacts) (s : Store) :
    ¬wouldWriteStart <+: (Plan.summary a s).toList := by
  obtain ⟨c, digits, hdigits⟩ : ∃ c digits, Nat.toDigits 10 a.signatureCount = c :: digits :=
    List.exists_cons_of_ne_nil Nat.toDigits_ne_nil
  have hc : c.isDigit = true := by
    apply Nat.isDigit_of_mem_toDigits (b := 10) (n := a.signatureCount) (by decide) (by decide)
    rw [hdigits]
    exact List.mem_cons_self
  unfold Plan.summary
  simp only [String.toList_append, List.append_assoc]
  rw [Nat.toString_eq_repr, Nat.toList_repr, hdigits]
  refine not_wouldWriteStart_prefix rfl ?_
  rintro rfl
  exact absurd hc (by decide)

/-- Every line about a file that would be written starts like that. -/
theorem wouldWriteStart_prefix_wouldWrite (path : Path) (content : String) :
    wouldWriteStart <+: (Plan.wouldWrite path content).toList := by
  unfold Plan.wouldWrite
  simp only [String.toList_append, List.append_assoc]
  exact List.prefix_append _ _

/-- A line about a file that would be written is unbroken if the path of the file is. -/
theorem unbroken_wouldWrite {path : Path} (h : Unbroken path.text) (content : String) :
    Unbroken (Plan.wouldWrite path content) := by
  unfold Plan.wouldWrite
  simp +decide [h]

/-- The line that sums up a dry run is unbroken. -/
theorem unbroken_summary (a : Artifacts) (s : Store) : Unbroken (Plan.summary a s) := by
  unfold Plan.summary
  simp +decide

/-- The lines of the error stream that tell what would be written are among those for the user. -/
theorem filter_lines_errors {report : Report} (h : ∀ note ∈ report.notes, note.Unbroken)
    (filter : LogFilter) :
    (lines (report.errors filter).toList).filter (fun line => wouldWriteStart <+: line) =
      (report.userLines.map String.toList).filter fun line => wouldWriteStart <+: line := by
  unfold Report.errors Report.userLines
  rw [lines_render_notes h]
  clear h
  induction report.notes with
  | nil => rfl
  | cons note notes ih =>
    cases note with
    | line text =>
      rw [List.filterMap_cons_some (f := Note.line? filter) rfl,
        List.filterMap_cons_some (f := Note.userLine?) rfl, List.map_cons, List.map_cons,
        List.filter_cons, List.filter_cons, ih]
    | event e =>
      rw [List.filterMap_cons_none (f := Note.userLine?) rfl, ← ih, List.filterMap_cons]
      cases hline : Note.line? filter (.event e) with
      | none => rfl
      | some text =>
        obtain ⟨-, hline⟩ := Option.ite_none_right_eq_some.1 hline
        obtain rfl := Option.some.inj hline
        rw [List.map_cons, List.filter_cons_of_neg]
        simpa using not_wouldWriteStart_prefix_line e

/-- Of the lines for the user in a dry run, all but the last tell what would be written. -/
theorem filter_wouldWrite_summary (s : Store) (a : Artifacts) :
    (((s.files.map fun file => Plan.wouldWrite file.path file.content) ++
        [Plan.summary a s]).map String.toList).filter (fun line => wouldWriteStart <+: line) =
      s.files.map fun file => (Plan.wouldWrite file.path file.content).toList := by
  rw [List.map_append, List.map_map, List.filter_append, List.map_singleton,
    List.filter_singleton, decide_eq_false (not_wouldWriteStart_prefix_summary a s), cond_false,
    List.append_nil, List.filter_eq_self.2]
  · rfl
  · intro line hline
    obtain ⟨file, -, rfl⟩ := List.mem_map.1 hline
    exact decide_eq_true (wouldWriteStart_prefix_wouldWrite file.path file.content)

/-- The notes of a dry run are unbroken if no name or path in them has a line break. -/
theorem unbroken_of_mem_notes_dryRun {o : Options} {t : FileTree} {ops : List Operation}
    {a : Artifacts} (hlist : o.list = false) (hdry : o.dryRun = true)
    (hops : operationsOf o.metadata (t.read o.metadata) = .ok ops)
    (hgenerate : (generate ops).outcome = .ok a) (hmetadata : Unbroken o.metadata.text)
    (hnames : ∀ op ∈ ops, Unbroken op.name)
    (hpaths : ∀ file ∈ a.files o.layout, Unbroken file.1.text) :
    ∀ note ∈ (o.run t).notes, note.Unbroken := by
  rw [Options.run_of_dryRun hops hlist hdry hgenerate]
  intro note hnote
  rcases List.mem_append.1 hnote with hnote | hnote
  · rcases List.mem_cons.1 hnote with rfl | hnote
    · exact hmetadata
    · obtain ⟨event, hevent, rfl⟩ := List.mem_map.1 hnote
      obtain ⟨op, hop, rfl | rfl⟩ := events_of_generate hgenerate hevent
      · exact trivial
      · exact hnames op hop
  · rcases List.mem_append.1 hnote with hnote | hnote
    · obtain ⟨file, hfile, rfl⟩ := List.mem_map.1 hnote
      have hpath : Unbroken file.path.text := by
        rcases Store.path_of_mem_files_writeAll hfile with ⟨new, hnew, hpath⟩ | ⟨old, hold, -⟩
        · rw [hpath]
          exact hpaths new hnew
        · exact absurd hold List.not_mem_nil
      exact unbroken_wouldWrite hpath file.content
    · obtain rfl := List.mem_singleton.1 hnote
      exact unbroken_summary a _

/-- What a dry run tells about the run that writes, if that one succeeds under an ordinary layout.
The dry run succeeds, prints the same and changes no file. Its lines about what would be written
are one for each file of a store that has the artifacts. The paths in them are those that the run
writes, each once and in the order of first writing; the sizes are those of the contents of the
store, and under each path the run leaves a file with that content. It changes no other file. -/
theorem dryRun_predicts_run {o : Options} {t : FileTree} (hlist : o.list = false)
    (hdry : o.dryRun = false) (hlayout : o.layout.Ordinary)
    (hnames : ∀ ops, operationsOf o.metadata (t.read o.metadata) = .ok ops →
      ∀ op ∈ ops, '/' ∉ op.name.toList ∧ Unbroken op.name)
    (hrun : (o.run t).exit = 0) :
    (o.dry.run t).exit = 0 ∧
      (o.dry.run t).output = (o.run t).output ∧
      (o.dry.run t).tree = t ∧
      ∃ ops a s, operationsOf o.metadata (t.read o.metadata) = .ok ops ∧
        (generate ops).outcome = .ok a ∧ s = Store.writeAll {} (a.files o.layout) ∧
        (o.dry.run t).userLines =
          (s.files.map fun file => "would write " ++ file.path.text ++ " (" ++
            toString file.content.utf8ByteSize ++ " bytes)") ++
            [Plan.summary a s] ∧
        (Unbroken o.metadata.text → ∀ filter,
          (lines ((o.dry.run t).errors filter).toList).filter
              (fun line => wouldWriteStart <+: line) =
            s.files.map fun file => ("would write " ++ file.path.text ++ " (" ++
              toString file.content.utf8ByteSize ++ " bytes)").toList) ∧
        s.files.map StoredFile.path = (o.run t).written.eraseDupsBy Path.same ∧
        (∀ file ∈ s.files, s.get? file.path = some file.content ∧
          (o.run t).tree.read file.path = .ok file.content ∧
          (o.run t).tree.file? (file.path.location t.current) = some file.content.toUTF8) ∧
        ∀ loc, (∀ file ∈ s.files, file.path.location t.current ≠ loc) →
          (o.run t).tree.file? loc = t.file? loc := by
  obtain ⟨ops, a, hops, hgenerate, hfault⟩ := Options.generated_of_exit_eq_zero hlist hdry hrun
  have hdryRun : o.dry.run t = _ :=
    Options.run_of_dryRun (o := o.dry) hops hlist rfl hgenerate
  have hslash := not_mem_key_of_generate hgenerate (by decide) (by decide)
    fun op hop => (hnames ops hops op hop).1
  have hbreak := not_mem_key_of_generate hgenerate (by decide) (by decide)
    fun op hop => (hnames ops hops op hop).2
  have hlines := Options.userLines_dryRun (o := o.dry) (t := t) hlist rfl hops
    hgenerate
  -- The tree of the run and the store of the dry run are kept in step file by file.
  have hmirror := (t.mirrors_empty).writeAll (Artifacts.plain_of_mem_files hlayout hslash) hfault
  have hwritten := Options.written_run hlist hdry hops hgenerate hfault
  have hcurrent := FileTree.current_writeAll hfault
  have hfiles := FileTree.file?_writeAll hfault
  rw [Options.run_of_writeAll hlist hdry hops hgenerate hfault] at hwritten ⊢
  refine ⟨by rw [hdryRun], by rw [hdryRun], by rw [hdryRun], ops, a, _, hops, hgenerate, rfl,
    hlines, ?_, ?_, ?_, ?_⟩
  · intro hmetadata filter
    have hnotes := unbroken_of_mem_notes_dryRun (o := o.dry) hlist rfl hops
      hgenerate hmetadata (fun op hop => (hnames ops hops op hop).2)
      (Artifacts.unbroken_of_mem_files hlayout hbreak)
    rw [filter_lines_errors hnotes, hlines]
    exact filter_wouldWrite_summary _ a
  · -- The store starts empty, so it gets every path that is written.
    have hnone : ∀ path : Path, ¬({} : Store).Holds path := fun _ => List.not_mem_nil
    rw [hwritten, Store.map_path_writeAll, List.filter_eq_self.2 (by simp [hnone])]
    rfl
  · intro file hfile
    obtain ⟨hplain, hread⟩ := hmirror file hfile
    have hfile? := (FileTree.read_eq_ok_iff.1 hread).2
    rw [hcurrent] at hfile?
    exact ⟨Store.get?_eq_some_iff.2 ⟨file, hfile, file.components_eq, rfl⟩, hread, hfile?⟩
  · -- A location of no stored file is none of a written path, since the store holds them all.
    intro loc hloc
    rw [hfiles]
    apply FileTree.setContents_of_forall_ne
    intro new hnew
    obtain ⟨file, hfile, hcomponents⟩ := List.mem_map.1
      (Store.holds_writeAll.2 (.inl ⟨new, hnew, rfl⟩) : (Store.writeAll {} _).Holds new.1)
    have := hloc file hfile
    unfold Path.location at this ⊢
    rwa [← hcomponents, file.components_eq]

/-- A comparison is generated under a layout that has one file for the library and the interface
module, under two spellings: what stays of the two is the interface module. -/
theorem dryRun_predicts_run_to_one_path :
    let o : Options :=
      ⟨⟨"ops.json"⟩, some ⟨"t/FHE.sol"⟩, some ⟨"t"⟩, some ⟨"t//FHE.sol"⟩, false, false, .text, 0⟩
    let t : FileTree := ⟨.directory
      [("ops.json", .file "[[\"lt\", [\"encrypted\", \"encrypted\"], \"ebool\"]]".toUTF8)], []⟩
    ∃ a, (generate
        [⟨"lt", [.anyEncrypted, .anyEncrypted], .exactly .ebool, false, false⟩]).outcome = .ok a ∧
      (o.run t).exit = 0 ∧ (o.dry.run t).exit = 0 ∧
      (o.run t).written = [⟨"t/FHE.sol"⟩, ⟨"t/Lt.sol"⟩, ⟨"t/AsEbool.sol"⟩, ⟨"t/AsEuint8.sol"⟩,
        ⟨"t/AsEuint16.sol"⟩, ⟨"t/AsEuint32.sol"⟩, ⟨"t/AsEuint64.sol"⟩, ⟨"t/AsEuint128.sol"⟩,
        ⟨"t/AsEuint256.sol"⟩, ⟨"t/AsEbytes.sol"⟩, ⟨"t//FHE.sol"⟩] ∧
      (o.dry.run t).userLines.length = 11 ∧
      (o.dry.run t).userLines.head? =
        some ("would write t/FHE.sol (" ++ toString a.abi.utf8ByteSize ++ " bytes)") ∧
      (o.run t).tree.file? ["t", "FHE.sol"] = some a.abi.toUTF8 ∧
      (o.run t).tree.file? ["ops.json"] = t.file? ["ops.json"] := by
  intro o t
  have hexit : (o.run t).exit = 0 := by decide +kernel
  have hops : operationsOf o.metadata (t.read o.metadata) =
      .ok [⟨"lt", [.anyEncrypted, .anyEncrypted], .exactly .ebool, false, false⟩] := by
    decide +kernel
  have hlayout : o.layout.Ordinary :=
    ⟨⟨by decide, by decide, by decide, by decide⟩, ⟨by decide, by decide, by decide, by decide⟩,
      ⟨by decide, by decide, by decide, by decide⟩⟩
  have hnames : ∀ ops, operationsOf o.metadata (t.read o.metadata) = .ok ops →
      ∀ op ∈ ops, '/' ∉ op.name.toList ∧ Unbroken op.name := by
    intro ops h
    obtain rfl := Except.ok.inj (hops.symm.trans h)
    decide
  obtain ⟨hdry, -, -, ops, a, s, hops', ha, hs, hlines, -, hpaths, hfiles, hframe⟩ :=
    dryRun_predicts_run rfl rfl hlayout hnames hexit
  obtain rfl := Except.ok.inj (hops.symm.trans hops')
  -- The paths follow from the keys of the contracts.
  have hkeys : a.contracts.map TestContract.key = ["Lt", "AsEbool", "AsEuint8", "AsEuint16",
      "AsEuint32", "AsEuint64", "AsEuint128", "AsEuint256", "AsEbytes"] := by
    obtain ⟨sigs, library, -, -, -, rfl⟩ := outcome_generate_eq_ok_iff.1 ha
    exact (map_key_testContracts _).trans (by decide +kernel)
  have hwritten : (o.run t).written = [⟨"t/FHE.sol"⟩, ⟨"t/Lt.sol"⟩, ⟨"t/AsEbool.sol"⟩,
      ⟨"t/AsEuint8.sol"⟩, ⟨"t/AsEuint16.sol"⟩, ⟨"t/AsEuint32.sol"⟩, ⟨"t/AsEuint64.sol"⟩,
      ⟨"t/AsEuint128.sol"⟩, ⟨"t/AsEuint256.sol"⟩, ⟨"t/AsEbytes.sol"⟩, ⟨"t//FHE.sol"⟩] := by
    obtain ⟨ops, a', hops', ha', hfault⟩ := Options.generated_of_exit_eq_zero rfl rfl hexit
    obtain rfl := Except.ok.inj (hops.symm.trans hops')
    obtain rfl := Except.ok.inj (ha.symm.trans ha')
    have hcontracts : (a.contracts.map fun c => o.layout.contractPath c.key) =
        (a.contracts.map TestContract.key).map o.layout.contractPath := by
      rw [List.map_map]
      rfl
    rw [Options.written_run rfl rfl hops ha hfault, Artifacts.map_fst_files, hcontracts, hkeys]
    decide +kernel
  rw [hwritten] at hpaths
  have hstored : s.files.map StoredFile.path = [⟨"t/FHE.sol"⟩, ⟨"t/Lt.sol"⟩, ⟨"t/AsEbool.sol"⟩,
      ⟨"t/AsEuint8.sol"⟩, ⟨"t/AsEuint16.sol"⟩, ⟨"t/AsEuint32.sol"⟩, ⟨"t/AsEuint64.sol"⟩,
      ⟨"t/AsEuint128.sol"⟩, ⟨"t/AsEuint256.sol"⟩, ⟨"t/AsEbytes.sol"⟩] :=
    hpaths.trans (by decide +kernel)
  obtain ⟨first, others, hcons, hfirst, -⟩ := List.map_eq_cons_iff.1 hstored
  have hmem : first ∈ s.files := by
    rw [hcons]
    exact List.mem_cons_self
  obtain ⟨hget, -, hfile⟩ := hfiles first hmem
  -- The interface module was stored last, under the second spelling.
  have hcontent : first.content = a.abi := by
    have hlast : s.get? ⟨"t/FHE.sol"⟩ = some a.abi := by
      rw [hs]
      unfold Artifacts.files Store.writeAll
      rw [List.foldl_append]
      show (Store.write _ ⟨"t//FHE.sol"⟩ a.abi).get? _ = _
      rw [Store.get?_write, if_pos (by decide)]
    rw [hfirst] at hget
    exact Option.some.inj (hget.symm.trans hlast)
  refine ⟨a, ha, hexit, hdry, hwritten, ?_, ?_, ?_, ?_⟩
  · have hlength := congrArg List.length hstored
    rw [List.length_map] at hlength
    rw [hlines, List.length_append, List.length_map, hlength]
    rfl
  · rw [hlines, hcons, List.map_cons, hfirst, hcontent]
    rfl
  · rw [hfirst, hcontent] at hfile
    exact hfile
  · apply hframe
    intro file hfile
    have hpath : file.path ∈ s.files.map StoredFile.path := List.mem_map_of_mem hfile
    rw [hstored] at hpath
    have hall : ∀ path ∈ ([⟨"t/FHE.sol"⟩, ⟨"t/Lt.sol"⟩, ⟨"t/AsEbool.sol"⟩, ⟨"t/AsEuint8.sol"⟩,
        ⟨"t/AsEuint16.sol"⟩, ⟨"t/AsEuint32.sol"⟩, ⟨"t/AsEuint64.sol"⟩, ⟨"t/AsEuint128.sol"⟩,
        ⟨"t/AsEuint256.sol"⟩, ⟨"t/AsEbytes.sol"⟩] : List Path),
        Path.location t.current path ≠ ["ops.json"] := by
      decide +kernel
    exact hall file.path hpath

end FheSolidity
