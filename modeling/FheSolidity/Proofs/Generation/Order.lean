import FheSolidity.Proofs.Generation.Verdict
import FheSolidity.Proofs.Solidity.Binding

/-!
# The order of operations

If no two operations have the same name, their order decides the order of what is generated and
nothing else. Whether generation succeeds is said of all operations at once; the functions of an
operation stay together (`libraryText_flatMap_overloads_eq_ok_iff`); and the search for a method
finds the only operation of its name, wherever that stands (`Binding.find_of_perm`).
-/

namespace FheSolidity

/-- The source of the test contract with a key, if there is one. -/
def Artifacts.source? (a : Artifacts) (key : String) : Option String :=
  (a.contracts.find? fun contract => contract.key == key).map TestContract.source

/-! ## Functions -/

namespace Operation

/-- The texts of the functions of an operation. -/
def functionTexts (op : Operation) : List String :=
  op.overloads.map fun sig => sig.functionText.toOption.getD ""

end Operation

/-- The part of a library behind the functions: the title of the conversions and the conversions,
the symbols of operations, and the methods that some overloads give the encrypted types. -/
def librarySequel (symbols : List String) (sigs : List Signature) : String :=
  String.join (castTitle :: castFunctions ++ Code.libraryEnd.render :: overloadingTitle ::
    symbols ++ bindingTitle ::
      ValueType.encryptedTypes.map fun t => (Binding.libraryCode t sigs).render)

/-- A library for the overloads of some operations is written exactly if the functions of each of
them are, and it has them in the order of the operations. -/
theorem libraryText_flatMap_overloads_eq_ok_iff {ops : List Operation} {library : String} :
    libraryText (ops.flatMap Operation.overloads) = .ok library ↔
      (∀ op ∈ ops, op.overloads.mapM Signature.functionText = .ok op.functionTexts) ∧
        ∃ symbols, symbolsOn ValueType.encryptedTypes = .ok symbols ∧
          library = Preamble.code.render ++ String.join (ops.flatMap Operation.functionTexts) ++
            librarySequel symbols (ops.flatMap Operation.overloads) := by
  have hfunctions : ∀ functions, (ops.flatMap Operation.overloads).mapM Signature.functionText =
      .ok functions ↔
      (∀ op ∈ ops, op.overloads.mapM Signature.functionText = .ok op.functionTexts) ∧
        functions = ops.flatMap Operation.functionTexts := by
    intro functions
    simp only [mapM_eq_ok_iff_map "", Operation.functionTexts, and_true, List.forall_mem_flatMap,
      List.map_flatMap]
    exact Iff.rfl
  rw [libraryText_eq_ok_iff]
  simp only [hfunctions]
  unfold librarySequel
  constructor
  · intro h
    obtain ⟨_, symbols, ⟨hops, rfl⟩, hsymbols, rfl⟩ := h
    refine ⟨hops, symbols, hsymbols, ?_⟩
    simp only [List.append_assoc, List.cons_append, String.join_cons, String.join_append,
      String.append_assoc]
  · intro h
    obtain ⟨hops, symbols, hsymbols, rfl⟩ := h
    refine ⟨_, symbols, ⟨hops, rfl⟩, hsymbols, ?_⟩
    simp only [List.append_assoc, List.cons_append, String.join_cons, String.join_append,
      String.append_assoc]

/-! ## Methods -/

/-- The methods of a type do not depend on the order of operations with different names. -/
theorem Binding.find_of_perm {ops ops' : List Operation} (hperm : ops.Perm ops')
    (hnames : (ops.map Operation.name).Nodup) {sigs sigs' : List Signature}
    (h : expandAll ops = .ok sigs) (h' : expandAll ops' = .ok sigs') (t : ValueType) :
    find t sigs = find t sigs' := by
  unfold find
  congr 1
  funext name
  rw [find?_eq_map, find?_eq_map, find?_isHomogeneous_of_expandAll h,
    find?_isHomogeneous_of_expandAll h']
  -- No more than one operation has the name, so that both searches find the same.
  have hfind : ops.find? (fun op => op.name = name ∧ op.AppliesTo t) =
      ops'.find? fun op => op.name = name ∧ op.AppliesTo t := by
    apply List.find?_eq_find?_of_perm hperm
    intro op hop op' hop'
    obtain ⟨hmem, hname⟩ := hop
    obtain ⟨hmem', hname'⟩ := hop'
    rw [decide_eq_true_eq] at hname hname'
    exact List.inj_on_of_nodup_map hnames hmem hmem' (hname.1.trans hname'.1.symm)
  rw [hfind]

/-! ## Generation -/

/-- The test contracts are reordered with the operations. -/
theorem testContracts_perm {ops ops' : List Operation} (hperm : ops.Perm ops') :
    (testContracts ops).Perm (testContracts ops') :=
  (hperm.filterMap _).append_right _

/-- Whether generation succeeds does not depend on the order of the operations. -/
theorem exists_outcome_generate_of_perm {ops ops' : List Operation} (hperm : ops.Perm ops')
    (h : ∃ a, (generate ops).outcome = .ok a) : ∃ a, (generate ops').outcome = .ok a := by
  rw [exists_outcome_generate_iff, ← map_key_testContracts] at h ⊢
  simp only [List.findSome?_eq_none_iff] at h ⊢
  obtain ⟨hextraction, harity, hkeys⟩ := h
  refine ⟨?_, ?_, ?_⟩
  · intro op hop
    exact hextraction op (hperm.mem_iff.2 hop)
  · intro op hop
    exact harity op (hperm.mem_iff.2 hop)
  · exact ((testContracts_perm hperm).map TestContract.key).nodup_iff.1 hkeys

/-- Test contracts of different keys are found in any order. -/
theorem source?_eq_of_perm {a a' : Artifacts} (hperm : a.contracts.Perm a'.contracts)
    (hkeys : (a.contracts.map TestContract.key).Nodup) (key : String) :
    a'.source? key = a.source? key := by
  unfold Artifacts.source?
  congr 1
  apply (List.find?_eq_find?_of_perm hperm _).symm
  intro contract hcontract contract' hcontract'
  obtain ⟨hmem, hkey⟩ := hcontract
  obtain ⟨hmem', hkey'⟩ := hcontract'
  rw [beq_iff_eq] at hkey hkey'
  exact List.inj_on_of_nodup_map hkeys hmem hmem' (hkey.trans hkey'.symm)

/-- Operations with different names generate the same in any order, short of the order itself. The
functions of each operation stay together and in their order, and all that follows them in the
library is the same. -/
theorem outcome_generate_of_perm {ops ops' : List Operation}
    (hnames : (ops.map Operation.name).Nodup) (hperm : ops.Perm ops') {a : Artifacts}
    (h : (generate ops).outcome = .ok a) :
    ∃ a', (generate ops').outcome = .ok a' ∧ a'.signatureCount = a.signatureCount ∧
      (∀ key, a'.source? key = a.source? key) ∧
      (∀ op ∈ ops, op.expand = .ok op.overloads ∧
        op.overloads.mapM Signature.functionText = .ok op.functionTexts) ∧
      (ops'.flatMap Operation.functionTexts).Perm (ops.flatMap Operation.functionTexts) ∧
      ∃ symbols sigs, symbolsOn ValueType.encryptedTypes = .ok symbols ∧
        expandAll ops = .ok sigs ∧
        a.library = Preamble.code.render ++ String.join (ops.flatMap Operation.functionTexts) ++
          librarySequel symbols sigs ∧
        a'.library = Preamble.code.render ++ String.join (ops'.flatMap Operation.functionTexts) ++
          librarySequel symbols sigs := by
  obtain ⟨a', ha'⟩ := exists_outcome_generate_of_perm hperm ⟨a, h⟩
  have hkeys : (testKeys ops).Nodup := (exists_outcome_generate_iff.1 ⟨a, h⟩).2.2
  obtain ⟨sigs, library, hsigs, hlibrary, -, ha⟩ := outcome_generate_eq_ok_iff.1 h
  obtain ⟨sigs', library', hsigs', hlibrary', -, rfl⟩ := outcome_generate_eq_ok_iff.1 ha'
  have hfind : ∀ t, Binding.find t sigs = Binding.find t sigs' :=
    Binding.find_of_perm hperm hnames hsigs hsigs'
  obtain ⟨hops, rfl⟩ := expandAll_eq_ok_iff_overloads.1 hsigs
  obtain ⟨-, rfl⟩ := expandAll_eq_ok_iff_overloads.1 hsigs'
  obtain ⟨htexts, symbols, hsymbols, rfl⟩ := libraryText_flatMap_overloads_eq_ok_iff.1 hlibrary
  obtain ⟨-, symbols', hsymbols', rfl⟩ := libraryText_flatMap_overloads_eq_ok_iff.1 hlibrary'
  rw [hsymbols, Except.ok.injEq] at hsymbols'
  subst hsymbols'
  subst ha
  have hsequel : librarySequel symbols (ops'.flatMap Operation.overloads) =
      librarySequel symbols (ops.flatMap Operation.overloads) := by
    unfold librarySequel Binding.libraryCode
    simp only [hfind]
  refine ⟨_, ha', (hperm.flatMap_right _).length_eq.symm, ?_, fun op hop => ⟨hops op hop,
    htexts op hop⟩, (hperm.flatMap_right _).symm, symbols, _, hsymbols, hsigs, rfl, ?_⟩
  · apply source?_eq_of_perm (testContracts_perm hperm)
    rw [map_key_testContracts]
    exact hkeys
  · rw [hsequel]

/-- The comparison of encrypted numbers and the negation of truth values may be generated in either
order. -/
theorem outcome_generate_of_comparison_and_negation :
    ∃ a a' comparison negation sequel,
      (generate [⟨"lt", [.anyEncrypted, .anyEncrypted], .exactly .ebool, false, false⟩,
        ⟨"not", [.exactly .ebool], .promoted, true, false⟩]).outcome = .ok a ∧
      (generate [⟨"not", [.exactly .ebool], .promoted, true, false⟩,
        ⟨"lt", [.anyEncrypted, .anyEncrypted], .exactly .ebool, false, false⟩]).outcome = .ok a' ∧
      a'.signatureCount = a.signatureCount ∧ a'.source? "Lt" = a.source? "Lt" ∧
      a.library = Preamble.code.render ++ (comparison ++ negation) ++ sequel ∧
      a'.library = Preamble.code.render ++ (negation ++ comparison) ++ sequel := by
  obtain ⟨a, ha⟩ : ∃ a, (generate [⟨"lt", [.anyEncrypted, .anyEncrypted], .exactly .ebool, false,
      false⟩, ⟨"not", [.exactly .ebool], .promoted, true, false⟩]).outcome = .ok a :=
    exists_outcome_generate_iff.2 ⟨by decide, by decide, by decide +kernel⟩
  obtain ⟨a', ha', hcount, hsource, -, -, symbols, sigs, -, -, hlibrary, hlibrary'⟩ :=
    outcome_generate_of_perm (by decide) (.swap _ _ []) ha
  rw [List.flatMap_cons, List.flatMap_singleton, String.join_append] at hlibrary hlibrary'
  exact ⟨a, a', _, _, _, ha, ha', hcount, hsource "Lt", hlibrary, hlibrary'⟩

end FheSolidity
