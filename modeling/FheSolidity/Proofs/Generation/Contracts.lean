import FheSolidity.Proofs.Generation.Verdict
import FheSolidity.Proofs.TestContract.Legible

/-!
# The texts of the test contracts agree

The key of a test contract goes into four texts: the contract itself, its interface, the module that
holds all interfaces, and the line that imports them. Generation gives no key twice, and each text
names the contracts by their keys in the same order (`contracts_of_generate`). The module is
trimmed at its end, which takes off the empty line after the last interface and nothing else
(`abiModule_append_newline`). Inside each contract, the interface lists the functions that the
contract declares, as long as no operation has a name that one of the texts breaks off early.
-/

namespace FheSolidity

open Text

/-! ## The interface module -/

/-- An interface ends with its brace and an empty line. -/
theorem TestContract.exists_abi_eq (c : TestContract) :
    ∃ front : List Char, c.abi.toList = front ++ '\x7d' :: ['\n', '\n'] := by
  unfold abi Code.block Code.closing Code.blank
  rw [Code.render_append, Code.render_append, Code.render_line, Code.render_line]
  simp only [String.toList_append, List.append_assoc]
  exact ⟨_, rfl⟩

/-- Trimming takes one line break off the interfaces of some contracts. -/
theorem abiModule_append_newline {contracts : List TestContract} (h : contracts ≠ []) :
    abiModule (String.join (contracts.map TestContract.abi)) ++ "\n" =
      abiOpening ++ String.join (contracts.map TestContract.abi) := by
  obtain ⟨others, last, rfl⟩ := (List.eq_nil_or_concat contracts).resolve_left h
  obtain ⟨front, hlast⟩ := last.exists_abi_eq
  obtain ⟨before, htext⟩ : ∃ before, (abiOpening ++
      String.join ((others.concat last).map TestContract.abi)).toList =
        before ++ '\x7d' :: ['\n', '\n'] := by
    rw [List.concat_eq_append, List.map_append, String.join_append, List.map_singleton,
      String.join_cons, String.join_nil, String.append_empty, String.toList_append,
      String.toList_append, hlast, ← List.append_assoc, ← List.append_assoc]
    exact ⟨_, rfl⟩
  apply String.toList_injective
  unfold abiModule
  rw [htext, trimEnd_append_cons (List.all_eq_true.1 (by decide)) (by decide), String.toList_append,
    String.toList_append, String.toList_ofList, List.append_assoc, List.append_assoc]
  rfl

/-! ## The lines that name a contract -/

/-- An interface starts with the name of the type of its contract. -/
theorem TestContract.prefix_abi (c : TestContract) :
    ("export interface " ++ c.key ++ "TestType extends BaseContract \x7b").toList <+:
      c.abi.toList := by
  unfold abi typeName Code.block Code.opening
  rw [Code.render_append, Code.render_append, Code.render_append, Code.render_line]
  simp only [String.toList_append, List.append_assoc, List.prefix_append_right_inj]
  exact ⟨_, rfl⟩

/-- The source of a contract has a line that opens it. -/
theorem TestContract.infix_source (c : TestContract) :
    ("contract " ++ c.key ++ "Test \x7b").toList <:+: c.source.toList := by
  unfold source Code.block Code.opening
  rw [Code.render_append, Code.render_append, Code.render_append, Code.render_line]
  simp only [String.toList_append, List.append_assoc]
  refine List.IsInfix.trans (List.IsPrefix.isInfix ?_) (List.suffix_append _ _).isInfix
  rw [List.prefix_append_right_inj, List.prefix_append_right_inj]
  exact ⟨_, rfl⟩

/-! ## The contracts of a generation -/

/-- The test contracts of operations with simple names are legible. -/
theorem legible_of_mem_testContracts {ops : List Operation} (hnames : ∀ op ∈ ops, Simple op.name)
    {c : TestContract} (h : c ∈ testContracts ops) : c.Legible := by
  rcases of_mem_testContracts h with ⟨op, hop, hcontract⟩ | hcasting
  · exact TestContract.legible_of_testContract? (hnames op hop) hcontract
  · exact TestContract.legible_of_mem_castings hcasting

/-- A generation that succeeds gives its contracts different keys. They name the contracts in the
line that imports them, in the interface module and in the sources, in one order; and where no
operation has a name that a text breaks off early, a contract declares the functions that its
interface has for members. -/
theorem contracts_of_generate {ops : List Operation} {a : Artifacts}
    (h : (generate ops).outcome = .ok a) :
    (a.contracts.map TestContract.key).Nodup ∧
      a.importHelper = "import \x7b " ++
        ",\n".intercalate (a.contracts.map fun c => c.key ++ "TestType") ++
          " \x7d from './abis';\n" ∧
      a.abi ++ "\n" = abiOpening ++ String.join (a.contracts.map TestContract.abi) ∧
      (∀ c ∈ a.contracts,
        ("export interface " ++ c.key ++ "TestType extends BaseContract \x7b").toList <+:
            c.abi.toList ∧
          ("contract " ++ c.key ++ "Test \x7b").toList <:+: c.source.toList) ∧
      ((∀ op ∈ ops, Simple op.name) → ∀ c ∈ a.contracts,
        memberNames c.abi.toList = c.functions.map (fun f => f.name.toList) ∧
          declaredNames c.source.toList = memberNames c.abi.toList) := by
  obtain ⟨sigs, library, -, -, hkeys, rfl⟩ := outcome_generate_eq_ok_iff.1 h
  refine ⟨?_, rfl, ?_, ?_, ?_⟩
  · rw [map_key_testContracts]
    exact (exists_outcome_generate_iff.1 ⟨_, h⟩).2.2
  · apply abiModule_append_newline
    exact List.append_ne_nil_of_right_ne_nil _ (by decide)
  · exact fun c _ => ⟨c.prefix_abi, c.infix_source⟩
  · intro hnames c hc
    have hlegible : c.Legible := legible_of_mem_testContracts hnames hc
    exact ⟨TestContract.memberNames_abi hlegible,
      (TestContract.declaredNames_source hlegible).trans
        (TestContract.memberNames_abi hlegible).symm⟩

/-- A comparison gets a contract next to those of the conversions, and its name can be read. -/
theorem contracts_of_comparison :
    ∃ a, (generate
        [⟨"lt", [.anyEncrypted, .anyEncrypted], .exactly .ebool, false, false⟩]).outcome = .ok a ∧
      (a.contracts.map TestContract.key).Nodup ∧
      a.abi ++ "\n" = abiOpening ++ String.join (a.contracts.map TestContract.abi) ∧
      ∀ c ∈ a.contracts, declaredNames c.source.toList = memberNames c.abi.toList := by
  obtain ⟨a, ha⟩ : ∃ a, (generate
      [⟨"lt", [.anyEncrypted, .anyEncrypted], .exactly .ebool, false, false⟩]).outcome = .ok a :=
    exists_outcome_generate_iff.2 ⟨by decide, by decide, by decide +kernel⟩
  obtain ⟨hnodup, -, habi, -, hnames⟩ := contracts_of_generate ha
  exact ⟨a, ha, hnodup, habi, fun c hc => (hnames (by decide +kernel) c hc).2⟩

end FheSolidity
