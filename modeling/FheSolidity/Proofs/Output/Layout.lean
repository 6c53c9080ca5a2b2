import FheSolidity.Output.Layout
import FheSolidity.Proofs.Generation.Verdict
import FheSolidity.Proofs.Output.Path
import FheSolidity.Proofs.Output.Store
import FheSolidity.Proofs.Text.Uppercase

/-!
# The files of a generation in a store

A test contract is stored in the directory of the contracts under its key, which is one component as
long as no operation has a slash in its name (`OutputLayout.components_contractPath`). Keys are not
repeated, so neither are these paths. If the library and the interface module lie elsewhere, all
artifacts are found at their paths once they are stored, and the store keeps everything else
(`stored_files_of_generate`).
-/

namespace FheSolidity

namespace OutputLayout

variable {layout : OutputLayout} {key : String}

/-- The file of a contract is one component behind the directory of the contracts. -/
theorem components_contractPath (layout : OutputLayout) (hkey : '/' ∉ key.toList) :
    (layout.contractPath key).components =
      layout.contractsDirectory.components ++ [.name (key ++ ".sol")] := by
  have hslash : '/' ∉ (key ++ ".sol").toList := by
    rw [String.toList_append, List.mem_append, not_or]
    exact ⟨hkey, by decide⟩
  -- The name has four characters at least, so it is neither empty nor a dot or two.
  have hne : ∀ word : String, word.toList.length < 4 → key ++ ".sol" ≠ word := by
    rintro word hword rfl
    rw [String.toList_append, List.length_append] at hword
    have hsuffix : ".sol".toList.length = 4 := by decide
    omega
  have hsegment : PathStep.ofSegment (key ++ ".sol") = .name (key ++ ".sol") := by
    unfold PathStep.ofSegment
    rw [if_neg (hne "." (by decide)), if_neg (hne ".." (by decide))]
  unfold contractPath
  rw [Path.components_join hslash (hne "" (by decide)) (hne "." (by decide)), hsegment]

/-- The files of two contracts have the same path only if the contracts have the same key. -/
theorem eq_of_components_contractPath_eq {key key' : String} (hkey : '/' ∉ key.toList)
    (hkey' : '/' ∉ key'.toList)
    (h : (layout.contractPath key).components = (layout.contractPath key').components) :
    key = key' := by
  rw [components_contractPath layout hkey, components_contractPath layout hkey',
    List.append_right_inj, List.singleton_inj, PathStep.name.injEq] at h
  apply String.toList_injective
  have hlist := congrArg String.toList h
  rw [String.toList_append, String.toList_append] at hlist
  exact List.append_cancel_right hlist

/-- The file of a contract lies at a plain path if the directory of the contracts does. -/
theorem plain_contractPath (hdirectory : layout.contractsDirectory.Plain)
    (hkey : '/' ∉ key.toList) : (layout.contractPath key).Plain := by
  unfold Path.Plain
  rw [components_contractPath layout hkey]
  refine ⟨List.append_ne_nil_of_right_ne_nil _ (List.cons_ne_nil _ _), ?_⟩
  intro step hstep
  rcases List.mem_append.1 hstep with hstep | hstep
  · exact hdirectory.2 step hstep
  · exact ⟨_, List.mem_singleton.1 hstep⟩

/-- The path of a contract has no line break if neither the directory nor the key has one. -/
theorem unbroken_contractPath (hdirectory : Text.Unbroken layout.contractsDirectory.text)
    (hkey : Text.Unbroken key) : Text.Unbroken (layout.contractPath key).text :=
  Path.unbroken_join hdirectory (Text.unbroken_append.2 ⟨hkey, by decide⟩)

/-- The library and the interface module lie at two paths, and none of some contracts lies at either
of them. -/
def Separates (layout : OutputLayout) (keys : List String) : Prop :=
  layout.library.same layout.abi = false ∧ ∀ key ∈ keys,
    layout.library.same (layout.contractPath key) = false ∧
      layout.abi.same (layout.contractPath key) = false

/-- Whether a layout keeps the other files away from those of some contracts can be found out. -/
instance (layout : OutputLayout) : DecidablePred layout.Separates :=
  fun _ => inferInstanceAs (Decidable (_ ∧ _))

/-- The usual layout keeps the other files away from those of all contracts. -/
theorem separates_usual {keys : List String} (hkeys : ∀ key ∈ keys, '/' ∉ key.toList) :
    ({} : OutputLayout).Separates keys := by
  refine ⟨by decide, ?_⟩
  intro key hkey
  unfold Path.same
  -- A contract lies three directories deep, and neither of the other files does.
  rw [components_contractPath _ (hkeys key hkey), beq_eq_false_iff_ne, beq_eq_false_iff_ne]
  have hdeep : ((({} : OutputLayout).contractsDirectory.components) ++
      [PathStep.name (key ++ ".sol")]).length = 4 := by
    rw [List.length_append, List.length_singleton]
    decide
  constructor
  · intro h
    rw [← h] at hdeep
    exact absurd hdeep (by decide)
  · intro h
    rw [← h] at hdeep
    exact absurd hdeep (by decide)

end OutputLayout

/-- A mark stands in a key only if it stands in the name of an operation. -/
theorem not_mem_of_mem_testKeys {ops : List Operation} {c : Char} (hc : c.isAlphanum = false)
    (hcapital : ¬Text.IsCapital c.toNat) (hnames : ∀ op ∈ ops, c ∉ op.name.toList) {key : String}
    (h : key ∈ testKeys ops) : c ∉ key.toList := by
  have hcasts : ∀ key ∈ ["AsEbool", "AsEuint8", "AsEuint16", "AsEuint32", "AsEuint64", "AsEuint128",
      "AsEuint256", "AsEbytes"], key.toList.all Char.isAlphanum = true := by
    decide
  unfold testKeys at h
  rcases List.mem_append.1 h with h | h
  · obtain ⟨op, hop, rfl⟩ := List.mem_map.1 h
    exact Text.not_mem_capitalize hcapital (hnames op (List.mem_filter.1 hop).1)
  · intro hmem
    rw [List.all_eq_true.1 (hcasts key h) c hmem] at hc
    exact nomatch hc

/-- The contracts of a generation that succeeds have different keys. -/
theorem nodup_keys_of_generate {ops : List Operation} {a : Artifacts}
    (h : (generate ops).outcome = .ok a) : (a.contracts.map TestContract.key).Nodup := by
  obtain ⟨sigs, library, -, -, -, rfl⟩ := outcome_generate_eq_ok_iff.1 h
  rw [map_key_testContracts ops]
  exact (exists_outcome_generate_iff.1 ⟨_, h⟩).2.2

/-- A mark stands in the key of a contract only if it stands in the name of an operation. -/
theorem not_mem_key_of_generate {ops : List Operation} {a : Artifacts}
    (h : (generate ops).outcome = .ok a) {c : Char} (hc : c.isAlphanum = false)
    (hcapital : ¬Text.IsCapital c.toNat) (hnames : ∀ op ∈ ops, c ∉ op.name.toList) :
    ∀ key ∈ a.contracts.map TestContract.key, c ∉ key.toList := by
  obtain ⟨sigs, library, -, -, -, rfl⟩ := outcome_generate_eq_ok_iff.1 h
  rw [map_key_testContracts ops]
  exact fun key hkey => not_mem_of_mem_testKeys hc hcapital hnames hkey

namespace Artifacts

variable {a : Artifacts} {layout : OutputLayout}

/-- The paths of the files of a generation: the library, the contracts in their order, and the
interface module. -/
theorem map_fst_files (a : Artifacts) (layout : OutputLayout) :
    (a.files layout).map Prod.fst =
      layout.library :: (a.contracts.map fun c => layout.contractPath c.key) ++ [layout.abi] := by
  unfold files
  rw [List.map_append, List.map_cons, List.map_map]
  rfl

/-- The components of the paths of the files of a generation. -/
theorem map_components_files (a : Artifacts) (layout : OutputLayout) :
    ((a.files layout).map fun file => file.1.components) =
      layout.library.components ::
        ((a.contracts.map TestContract.key).map fun key =>
          (layout.contractPath key).components) ++ [layout.abi.components] := by
  have hmap := congrArg (List.map Path.components) (map_fst_files a layout)
  rw [List.map_map, List.map_append, List.map_cons, List.map_map] at hmap
  rw [List.map_map]
  exact hmap

/-- No two files of a generation have the same path if its contracts have different keys without
slashes and the layout keeps the other files away from them. -/
theorem nodup_components_files (hnodup : (a.contracts.map TestContract.key).Nodup)
    (hslash : ∀ key ∈ a.contracts.map TestContract.key, '/' ∉ key.toList)
    (hlayout : layout.Separates (a.contracts.map TestContract.key)) :
    ((a.files layout).map fun file => file.1.components).Nodup := by
  obtain ⟨hends, hcontracts⟩ := hlayout
  unfold Path.same at hends hcontracts
  simp only [beq_eq_false_iff_ne] at hends hcontracts
  have hkeys : ((a.contracts.map TestContract.key).map fun key =>
      (layout.contractPath key).components).Nodup := by
    refine hnodup.map_on ?_
    intro key hkey key' hkey' heq
    exact OutputLayout.eq_of_components_contractPath_eq (hslash key hkey) (hslash key' hkey') heq
  rw [map_components_files, List.cons_append, List.nodup_cons, List.nodup_append]
  refine ⟨?_, hkeys, List.nodup_singleton _, ?_⟩
  · rw [List.mem_append, List.mem_singleton, not_or]
    refine ⟨?_, hends⟩
    intro hmem
    obtain ⟨key, hkey, heq⟩ := List.mem_map.1 hmem
    exact (hcontracts key hkey).1 heq.symm
  · intro components hmem last hlast heq
    rw [List.mem_singleton] at hlast
    obtain ⟨key, hkey, rfl⟩ := List.mem_map.1 hmem
    exact (hcontracts key hkey).2 (hlast.symm.trans heq.symm)

/-- The files of a generation at different paths come last in a store, short of those that were
there. -/
theorem map_path_writeAll (s : Store)
    (hpaths : ((a.files layout).map fun file => file.1.components).Nodup) :
    (s.writeAll (a.files layout)).files.map StoredFile.path = s.files.map StoredFile.path ++
      ((a.files layout).map Prod.fst).filter fun path => ¬s.Holds path := by
  rw [Store.map_path_writeAll, Store.eraseDupsBy_same_eq_self]
  refine List.Nodup.sublist (List.filter_sublist.map _) ?_
  rw [List.map_map]
  exact hpaths

end Artifacts

/-- What becomes of a store when the artifacts of a generation are written to it. The contracts lie
at different paths, each one component below the directory of the contracts. Under a layout that
keeps the other files away from them, every artifact is found at its path, every other file is in
its place as before, and the paths that were not there come last, in the order of the artifacts.
Writing the same again changes nothing. The usual layout keeps all files apart, so an empty store
gets a file for the library, one for the interface module and one for each contract. -/
theorem stored_files_of_generate {ops : List Operation} {a : Artifacts}
    (h : (generate ops).outcome = .ok a) (hnames : ∀ op ∈ ops, '/' ∉ op.name.toList)
    {layout : OutputLayout} (hlayout : layout.Separates (a.contracts.map TestContract.key))
    (s : Store) :
    (a.contracts.map fun c => (layout.contractPath c.key).components).Nodup ∧
      (∀ c ∈ a.contracts, (layout.contractPath c.key).components =
        layout.contractsDirectory.components ++ [.name (c.key ++ ".sol")]) ∧
      (s.writeAll (a.files layout)).get? layout.library = some a.library ∧
      (∀ c ∈ a.contracts,
        (s.writeAll (a.files layout)).get? (layout.contractPath c.key) = some c.source) ∧
      (s.writeAll (a.files layout)).get? layout.abi = some a.abi ∧
      (∀ (i : Nat) (file : StoredFile), s.files[i]? = some file →
        (∀ new ∈ a.files layout, file.path.same new.1 = false) →
          (s.writeAll (a.files layout)).files[i]? = some file) ∧
      (s.writeAll (a.files layout)).files.map StoredFile.path =
        s.files.map StoredFile.path ++
          (layout.library :: (a.contracts.map fun c => layout.contractPath c.key) ++
            [layout.abi]).filter (fun path => s.get? path = none) ∧
      (s.writeAll (a.files layout)).writeAll (a.files layout) = s.writeAll (a.files layout) ∧
      ({} : OutputLayout).Separates (a.contracts.map TestContract.key) ∧
      (Store.writeAll {} (a.files {})).files.length = a.contracts.length + 2 := by
  have hnodup := nodup_keys_of_generate h
  have hslash := not_mem_key_of_generate h (by decide) (by decide) hnames
  have hpaths := Artifacts.nodup_components_files hnodup hslash hlayout
  have husual := OutputLayout.separates_usual hslash
  refine ⟨?_, ?_, ?_, ?_, ?_, ?_, ?_, Store.writeAll_writeAll hpaths, husual, ?_⟩
  · -- The paths of the contracts are among those of all files.
    rw [Artifacts.map_components_files, List.map_map, List.cons_append] at hpaths
    exact (List.nodup_append.1 (List.nodup_cons.1 hpaths).2).1
  · intro c hc
    exact layout.components_contractPath (hslash c.key (List.mem_map_of_mem hc))
  · exact Store.get?_writeAll_of_mem hpaths List.mem_cons_self
  · intro c hc
    apply Store.get?_writeAll_of_mem hpaths
    exact List.mem_append_left _ (List.mem_cons_of_mem _ (List.mem_map.2 ⟨c, hc, rfl⟩))
  · exact Store.get?_writeAll_of_mem hpaths (List.mem_append_right _ (List.mem_singleton.2 rfl))
  · intro i file hfile hother
    refine Store.getElem?_writeAll hfile ?_
    intro new hnew
    have hne := hother new hnew
    unfold Path.same at hne
    rw [beq_eq_false_iff_ne] at hne
    rw [file.components_eq]
    exact hne
  · rw [Artifacts.map_path_writeAll s hpaths, Artifacts.map_fst_files]
    congr 1
    apply List.filter_congr
    intro path _
    exact decide_eq_decide.2 Store.get?_eq_none_iff.symm
  · have hstored := Artifacts.map_path_writeAll {}
      (Artifacts.nodup_components_files hnodup hslash husual)
    have hlength := congrArg List.length hstored
    rw [List.length_map, Artifacts.map_fst_files, List.filter_eq_self.2 (by simp [Store.Holds])]
      at hlength
    rw [hlength]
    simp

/-- The artifacts of a comparison are written to a store with two files. One of them lies where the
library goes, under another spelling, and the directory of the contracts has no name. -/
theorem stored_files_of_comparison :
    let layout : OutputLayout := ⟨⟨"out/FHE.sol"⟩, ⟨""⟩, ⟨"./abis.ts"⟩⟩
    let s := Store.writeAll {} [(⟨"notes.txt"⟩, "kept"), (⟨"out//FHE.sol"⟩, "old")]
    ∃ a, (generate
        [⟨"lt", [.anyEncrypted, .anyEncrypted], .exactly .ebool, false, false⟩]).outcome = .ok a ∧
      layout.Separates (a.contracts.map TestContract.key) ∧
      (s.writeAll (a.files layout)).get? ⟨"out/FHE.sol"⟩ = some a.library ∧
      (s.writeAll (a.files layout)).files.map StoredFile.path =
        [⟨"notes.txt"⟩, ⟨"out//FHE.sol"⟩, ⟨"Lt.sol"⟩, ⟨"AsEbool.sol"⟩, ⟨"AsEuint8.sol"⟩,
          ⟨"AsEuint16.sol"⟩, ⟨"AsEuint32.sol"⟩, ⟨"AsEuint64.sol"⟩, ⟨"AsEuint128.sol"⟩,
          ⟨"AsEuint256.sol"⟩, ⟨"AsEbytes.sol"⟩, ⟨"./abis.ts"⟩] ∧
      (s.writeAll (a.files layout)).writeAll (a.files layout) = s.writeAll (a.files layout) := by
  intro layout s
  obtain ⟨a, ha⟩ : ∃ a, (generate
      [⟨"lt", [.anyEncrypted, .anyEncrypted], .exactly .ebool, false, false⟩]).outcome = .ok a :=
    exists_outcome_generate_iff.2 ⟨by decide, by decide, by decide +kernel⟩
  have hkeys : a.contracts.map TestContract.key = ["Lt", "AsEbool", "AsEuint8", "AsEuint16",
      "AsEuint32", "AsEuint64", "AsEuint128", "AsEuint256", "AsEbytes"] := by
    obtain ⟨sigs, library, -, -, -, rfl⟩ := outcome_generate_eq_ok_iff.1 ha
    exact (map_key_testContracts _).trans (by decide +kernel)
  have hlayout : layout.Separates (a.contracts.map TestContract.key) := by
    rw [hkeys]
    decide +kernel
  obtain ⟨-, -, hlibrary, -, -, -, hpaths, htwice, -⟩ :=
    stored_files_of_generate ha (by decide) hlayout s
  refine ⟨a, ha, hlayout, hlibrary, hpaths.trans ?_, htwice⟩
  have hcontracts : (a.contracts.map fun c => layout.contractPath c.key) =
      (a.contracts.map TestContract.key).map layout.contractPath := by
    rw [List.map_map]
    rfl
  rw [hcontracts, hkeys]
  decide +kernel

end FheSolidity
