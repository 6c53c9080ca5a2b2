import FheSolidity.Proofs.Generation.Contracts
import FheSolidity.Proofs.Solidity.LibraryBrackets
import FheSolidity.Proofs.TestContract.Brackets

/-!
# Brackets in all that is generated

As long as no operation has a bracket in its name, every text of a generation is paired: the
library, the test contracts, the module of their interfaces and the line that imports them. In the
library, all functions and conversions stand inside the one brace of the library `FHE`, and the
operator overloading starts outside of it (`paired_texts_of_generate`).
-/

namespace FheSolidity

open Text

/-- The overloads of operations whose names have no brackets have such names. -/
theorem unbracketed_of_mem_expandAll {ops : List Operation} {sigs : List Signature}
    (h : expandAll ops = .ok sigs) (hnames : ∀ op ∈ ops, Unbracketed op.name) {sig : Signature}
    (hsig : sig ∈ sigs) : Unbracketed sig.name := by
  obtain ⟨op, hop, family, hexpand, hmem⟩ := exists_of_mem_expandAll h hsig
  obtain ⟨hname, -⟩ := Operation.mem_expandIn hexpand sig hmem
  rw [hname]
  exact hnames op hop

/-- The test contracts of operations whose names have no brackets are paired. -/
theorem paired_of_mem_testContracts {ops : List Operation}
    (hnames : ∀ op ∈ ops, Unbracketed op.name) {c : TestContract} (h : c ∈ testContracts ops) :
    c.Paired := by
  rcases of_mem_testContracts h with ⟨op, hop, hcontract⟩ | hcasting
  · exact TestContract.paired_of_testContract? (hnames op hop) hcontract
  · exact TestContract.paired_of_mem_castings hcasting

/-- The interface module of paired contracts is paired. -/
theorem paired_abiModule {contracts : List TestContract} (hne : contracts ≠ [])
    (h : ∀ c ∈ contracts, c.Paired) :
    Paired (abiModule (String.join (contracts.map TestContract.abi))) := by
  have hopening : Paired abiOpening := paired_ofList_append (by decide)
  have hinterfaces : Paired (String.join (contracts.map TestContract.abi)) := by
    apply paired_join
    exact List.forall_mem_map.2 fun c hc => TestContract.paired_abi (h c hc)
  -- The module is what trimming leaves, and that takes off a line break only.
  rw [← paired_append_newline, abiModule_append_newline hne]
  exact hopening.append hinterfaces

/-- The line that imports the interfaces of contracts with paired keys is paired. -/
theorem Artifacts.paired_importHelper {a : Artifacts} (h : ∀ c ∈ a.contracts, c.Paired) :
    Paired a.importHelper := by
  have hnames : Paired (",\n".intercalate (a.contracts.map TestContract.typeName)) := by
    apply paired_intercalate (by decide)
    exact List.forall_mem_map.2 fun c hc => (h c hc).key.append (by decide)
  unfold importHelper Paired
  simp only [String.toList_append, openAfter_append, hnames.openAfter]
  rfl

/-- Every text of a generation is paired if no operation has a bracket in its name. In the library,
the function of every signature and every conversion starts and ends where one brace is open and
nothing else; and where the operator overloading starts, nothing is open. -/
theorem paired_texts_of_generate {ops : List Operation} {a : Artifacts}
    (h : (generate ops).outcome = .ok a) (hnames : ∀ op ∈ ops, Unbracketed op.name) :
    Paired a.library ∧ (∀ c ∈ a.contracts, Paired c.source) ∧ Paired a.abi ∧
      Paired a.importHelper ∧
      ∃ sigs functions symbols, expandAll ops = .ok sigs ∧
        List.Forall₂ (fun sig text => sig.functionText = .ok text) sigs functions ∧
        a.library = String.join (Preamble.code.render :: functions ++ castTitle :: castFunctions ++
          Code.libraryEnd.render :: overloadingTitle :: symbols ++ bindingTitle ::
            ValueType.encryptedTypes.map fun t => (Binding.libraryCode t sigs).render) ∧
        (∀ before text after, functions = before ++ text :: after →
          StandsAt 1 (String.join (Preamble.code.render :: before)) text) ∧
        (∀ before text after, castFunctions = before ++ text :: after →
          StandsAt 1 (String.join (Preamble.code.render :: functions ++ castTitle :: before))
            text) ∧
        openAfter [] (String.join (Preamble.code.render :: functions ++
          castTitle :: castFunctions ++ [Code.libraryEnd.render])).toList = some [] := by
  obtain ⟨sigs, library, hsigs, hlibrary, -, rfl⟩ := outcome_generate_eq_ok_iff.1 h
  have hcontracts : ∀ c ∈ testContracts ops, c.Paired :=
    fun c hc => paired_of_mem_testContracts hnames hc
  obtain ⟨hpaired, functions, symbols, hdepths⟩ := depths_of_libraryText hlibrary
    fun sig hsig => (unbracketed_of_mem_expandAll hsigs hnames hsig).paired
  refine ⟨hpaired, ?_, ?_, ?_, sigs, functions, symbols, hsigs, hdepths⟩
  · exact fun c hc => TestContract.paired_source (hcontracts c hc)
  · exact paired_abiModule (List.append_ne_nil_of_right_ne_nil _ (by decide)) hcontracts
  · exact Artifacts.paired_importHelper hcontracts

/-- All that is generated from a comparison is paired. -/
theorem paired_texts_of_comparison :
    ∃ a, (generate
        [⟨"lt", [.anyEncrypted, .anyEncrypted], .exactly .ebool, false, false⟩]).outcome = .ok a ∧
      Paired a.library ∧ (∀ c ∈ a.contracts, Paired c.source) ∧ Paired a.abi ∧
      Paired a.importHelper := by
  obtain ⟨a, ha⟩ : ∃ a, (generate
      [⟨"lt", [.anyEncrypted, .anyEncrypted], .exactly .ebool, false, false⟩]).outcome = .ok a :=
    exists_outcome_generate_iff.2 ⟨by decide, by decide, by decide +kernel⟩
  obtain ⟨hlibrary, hcontracts, habi, himport, -⟩ := paired_texts_of_generate ha (by decide)
  exact ⟨a, ha, hlibrary, hcontracts, habi, himport⟩

end FheSolidity
