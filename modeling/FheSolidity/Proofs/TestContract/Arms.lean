import FheSolidity.TestContract.Template
import FheSolidity.Proofs.ValueType

/-!
# Which arms a test contract has

The arms that a test function chooses among can be read off its body (`Arm.choose_injective`), and
so the labels by which its tests are asked for can be read off a contract. No two of the labels that
a contract has for the types it tests are the same text, whatever the operation is called and
whatever its symbol is: each tells its type (`PairLabel.unique`), and the three kinds of tests on
two operands end differently.
-/

namespace FheSolidity

open Text

/-! ## Reading arms -/

namespace Arm

/-- An arm is told from its condition and its statement. -/
theorem eq_of_condition_eq {arm arm' : Arm} (hcondition : arm.condition = arm'.condition)
    (hstatement : arm.statement = arm'.statement) : arm = arm' := by
  obtain ⟨label, statement⟩ := arm
  obtain ⟨label', statement'⟩ := arm'
  unfold condition at hcondition
  rw [String.append_left_inj, String.append_right_inj] at hcondition
  exact congrArg₂ Arm.mk hcondition hstatement

/-- The arms after the first are told from their lines, of which each takes two. -/
theorem others_injective : Function.Injective others := by
  intro arms
  induction arms with
  | nil =>
    intro arms' h
    cases arms' with
    | nil => rfl
    | cons arm' arms' => exact nomatch h
  | cons arm arms ih =>
    intro arms' h
    cases arms' with
    | nil => exact nomatch h
    | cons arm' arms' =>
      obtain ⟨hopening, h⟩ := List.cons.inj h
      obtain ⟨hstatement, h⟩ := List.cons.inj h
      have hcondition : arm.condition = arm'.condition := by
        have htext := congrArg Line.text hopening
        exact (String.append_right_inj _).1 ((String.append_left_inj _).1 htext)
      rw [eq_of_condition_eq hcondition (congrArg Line.text hstatement), ih h]

/-- A choice tells its arms. -/
theorem choose_injective : Function.Injective choose := by
  intro arms arms' h
  cases arms with
  | nil =>
    cases arms' with
    | nil => rfl
    | cons arm' arms' => exact nomatch (List.cons.inj h).2
  | cons arm arms =>
    cases arms' with
    | nil => exact nomatch (List.cons.inj h).2
    | cons arm' arms' =>
      obtain ⟨hopening, h⟩ := List.cons.inj h
      obtain ⟨hstatement, h⟩ := List.cons.inj h
      have hcondition : arm.condition = arm'.condition :=
        (String.append_left_inj _).1 (congrArg Line.text hopening)
      -- What follows the arms is the same for every choice.
      have hothers : others arms = others arms' :=
        List.append_cancel_right (List.append_cancel_right (List.append_cancel_right h))
      rw [eq_of_condition_eq hcondition (congrArg Line.text hstatement), others_injective hothers]

end Arm

/-- A contract chooses among some arms by the label of a test: it has a single function, which is
named for the operation, and whose body is the choice by its first parameter. -/
def TestContract.Chooses (c : TestContract) (operation : String) (arms : List Arm) : Prop :=
  ∃ f, c.functions = [f] ∧ f.name = operation ∧ f.parameters.head? = some testParameter ∧
    f.body = Arm.choose arms

namespace TestContract

/-- A contract chooses among one list of arms only. -/
theorem Chooses.unique {c : TestContract} {operation : String} {arms arms' : List Arm}
    (h : c.Chooses operation arms) (h' : c.Chooses operation arms') : arms = arms' := by
  obtain ⟨f, hf, -, -, hbody⟩ := h
  obtain ⟨f', hf', -, -, hbody'⟩ := h'
  obtain rfl : f = f' := (List.cons.inj (hf.symm.trans hf')).1
  exact Arm.choose_injective (hbody.symm.trans hbody')

/-- The contract of an operation chooses among its arms. -/
theorem chooses_dispatching (operation : String) (parameters : List TestParameter)
    (returns : Option String) (promises : String) (arms : List Arm) :
    (dispatching operation parameters returns promises arms).Chooses operation arms :=
  ⟨_, rfl, rfl, rfl, rfl⟩

/-- The tested types are all different. -/
theorem nodup_testedTypes (booleanMath : Bool) : (testedTypes booleanMath).Nodup := by
  have hencrypted : ValueType.encryptedTypes.Nodup := by decide
  exact hencrypted.filter _

/-! ## Labels -/

variable {operation : String} {t u : ValueType}

/-- The label of the test of a function on one operand tells the type. -/
theorem unaryLabel_injective (operation : String) : Function.Injective (unaryLabel operation) := by
  intro t u h
  unfold unaryLabel at h
  rw [String.append_left_inj, String.append_right_inj] at h
  exact ValueType.name_injective h

/-- The label of the test of a choice tells the type. -/
theorem ternaryLabel_injective (operation : String) :
    Function.Injective (ternaryLabel operation) := by
  intro t u h
  unfold ternaryLabel at h
  rw [String.append_right_inj] at h
  exact ValueType.name_injective h

/-- The label of the test of a function on two operands has both behind its last parenthesis. -/
theorem toList_functionLabel (operation : String) (t : ValueType) :
    (functionLabel operation t).toList =
      operation.toList ++ '(' :: (t.name.toList ++ ',' :: t.name.toList ++ [')']) := by
  unfold functionLabel
  simp only [String.toList_append, List.append_assoc]
  rfl

/-- The label of the test of a method has its operand behind its last parenthesis. -/
theorem toList_methodLabel (operation : String) (t : ValueType) :
    (methodLabel operation t).toList =
      (t.name ++ "." ++ operation).toList ++ '(' :: (t.name.toList ++ [')']) := by
  unfold methodLabel
  simp only [String.toList_append, List.append_assoc]
  rfl

/-- The label of the test of a symbol has its second operand behind its last space. -/
theorem toList_symbolLabel (symbol : String) (t : ValueType) :
    (symbolLabel symbol t).toList = (t.name ++ " " ++ symbol).toList ++ ' ' :: t.name.toList := by
  unfold symbolLabel
  simp only [String.toList_append, List.append_assoc]
  rfl

/-- The label of the test of a function on two operands tells their type. -/
theorem functionLabel_injective (operation : String) :
    Function.Injective (functionLabel operation) := by
  intro t u h
  have htext := congrArg String.toList h
  rw [toList_functionLabel, toList_functionLabel] at htext
  have hoperands := (List.cons.inj (List.append_cancel_left htext)).2
  exact ValueType.eq_of_append_cons_name (by decide) (List.append_cancel_right hoperands)

/-- The label of the test of a method tells its type. -/
theorem methodLabel_injective (operation : String) :
    Function.Injective (methodLabel operation) := by
  intro t u h
  have htext := congrArg String.toList h
  rw [toList_methodLabel, toList_methodLabel, ← List.cons_append, ← List.cons_append,
    ← List.append_assoc, ← List.append_assoc] at htext
  exact ValueType.eq_of_append_cons_name (by decide) (List.append_cancel_right htext)

/-- The label of the test of a symbol tells its type, whatever the symbol is. -/
theorem eq_of_symbolLabel_eq {symbol symbol' : String}
    (h : symbolLabel symbol t = symbolLabel symbol' u) : t = u := by
  have htext := congrArg String.toList h
  rw [toList_symbolLabel, toList_symbolLabel] at htext
  exact ValueType.eq_of_append_cons_name (by decide) htext

/-- The label of the test of a symbol tells the symbol. -/
theorem symbolLabel_injective (t : ValueType) :
    Function.Injective fun symbol => symbolLabel symbol t := by
  intro symbol symbol' h
  change t.name ++ " " ++ symbol ++ " " ++ t.name = t.name ++ " " ++ symbol' ++ " " ++ t.name at h
  rw [String.append_left_inj, String.append_left_inj, String.append_right_inj] at h
  exact h

/-- A function and a method are tested under different labels. -/
theorem functionLabel_ne_methodLabel : functionLabel operation t ≠ methodLabel operation u := by
  intro h
  have htext := congrArg String.toList h
  rw [toList_functionLabel, toList_methodLabel] at htext
  have hparen : ∀ v : ValueType, '(' ∉ v.name.toList := fun v => v.not_mem_name (by decide)
  have hoperands := (append_cons_inj_of_not_mem (by simp [hparen]) (by simp [hparen]) htext).2
  -- The function has two operands and so a comma between them.
  have hcomma : ',' ∈ u.name.toList ++ [')'] := by
    rw [← hoperands]
    simp
  rcases List.mem_append.1 hcomma with hcomma | hcomma
  · exact u.not_mem_name (by decide) hcomma
  · exact absurd hcomma (by decide)

/-- The label of the test of a symbol does not end with a parenthesis. -/
theorem toList_symbolLabel_ne (symbol : String) (t : ValueType) (front : List Char) :
    (symbolLabel symbol t).toList ≠ front ++ [')'] := by
  intro h
  obtain ⟨before, last, hname⟩ := (List.eq_nil_or_concat t.name.toList).resolve_left t.isWord_name.1
  rw [toList_symbolLabel, hname, List.concat_eq_append, ← List.cons_append,
    ← List.append_assoc] at h
  have hlast : last = ')' := List.singleton_inj.1 (List.append_inj' h rfl).2
  refine t.not_mem_name (by decide : ')'.isAlphanum = false) ?_
  rw [hname, hlast, List.concat_eq_append]
  exact List.mem_append_right _ List.mem_cons_self

/-- A symbol and a function are tested under different labels. -/
theorem symbolLabel_ne_functionLabel {symbol : String} :
    symbolLabel symbol t ≠ functionLabel operation u := by
  intro h
  apply toList_symbolLabel_ne symbol t
  rw [h, toList_functionLabel, ← List.cons_append, ← List.append_assoc]

/-- A symbol and a method are tested under different labels. -/
theorem symbolLabel_ne_methodLabel {symbol : String} :
    symbolLabel symbol t ≠ methodLabel operation u := by
  intro h
  apply toList_symbolLabel_ne symbol t
  rw [h, toList_methodLabel, ← List.cons_append, ← List.append_assoc]

/-- The labels that the tests of an operation on two operands of a type may have: that of its
function, that of its method, and that of a symbol. -/
def PairLabel (operation : String) (t : ValueType) (label : String) : Prop :=
  label = functionLabel operation t ∨ label = methodLabel operation t ∨
    ∃ symbol, label = symbolLabel symbol t

/-- The label of a test on two operands tells their type. -/
theorem PairLabel.unique {label : String} (h : PairLabel operation t label)
    (h' : PairLabel operation u label) : t = u := by
  rcases h with rfl | rfl | ⟨symbol, rfl⟩
  · rcases h' with h' | h' | ⟨symbol', h'⟩
    · exact functionLabel_injective operation h'
    · exact absurd h' functionLabel_ne_methodLabel
    · exact absurd h'.symm symbolLabel_ne_functionLabel
  · rcases h' with h' | h' | ⟨symbol', h'⟩
    · exact absurd h'.symm functionLabel_ne_methodLabel
    · exact methodLabel_injective operation h'
    · exact absurd h'.symm symbolLabel_ne_methodLabel
  · rcases h' with h' | h' | ⟨symbol', h'⟩
    · exact absurd h' symbolLabel_ne_functionLabel
    · exact absurd h' symbolLabel_ne_methodLabel
    · exact eq_of_symbolLabel_eq h'

/-- The labels of the tests on different types are different, if those of the tests on each are. -/
theorem nodup_flatMap_pairLabels {labels : ValueType → List String}
    (hlabels : ∀ t, (labels t).Nodup) (hpair : ∀ t, ∀ label ∈ labels t, PairLabel operation t label)
    {types : List ValueType} (htypes : types.Nodup) : (types.flatMap labels).Nodup := by
  rw [List.nodup_flatMap]
  refine ⟨fun t _ => hlabels t, htypes.imp ?_⟩
  intro t u hne label ht hu
  exact hne ((hpair t label ht).unique (hpair u label hu))

/-- The labels of the function, the method and some symbols are those of tests on two operands of a
type, and no two of them are the same if no symbol is there twice. -/
theorem pairLabels_append (operation : String) (t : ValueType) {symbols : List String}
    (hsymbols : symbols.Nodup) :
    (∀ label ∈ [functionLabel operation t, methodLabel operation t] ++
        symbols.map fun symbol => symbolLabel symbol t, PairLabel operation t label) ∧
      ([functionLabel operation t, methodLabel operation t] ++
        symbols.map fun symbol => symbolLabel symbol t).Nodup := by
  constructor
  · intro label hlabel
    rcases List.mem_append.1 hlabel with hlabel | hlabel
    · rcases List.mem_pair.1 hlabel with rfl | rfl
      · exact .inl rfl
      · exact .inr (.inl rfl)
    · obtain ⟨symbol, -, rfl⟩ := List.mem_map.1 hlabel
      exact .inr (.inr ⟨symbol, rfl⟩)
  · refine List.Nodup.append ?_ (hsymbols.map (symbolLabel_injective t)) ?_
    · exact List.nodup_cons.2 ⟨by simpa using functionLabel_ne_methodLabel, List.nodup_singleton _⟩
    · intro label hcall hlabel
      obtain ⟨symbol, -, rfl⟩ := List.mem_map.1 hlabel
      rcases List.mem_pair.1 hcall with hcall | hcall
      · exact symbolLabel_ne_functionLabel hcall
      · exact symbolLabel_ne_methodLabel hcall

/-- The arm for a symbol has its label, if the type takes the symbol. -/
theorem map_label_symbolArm (operation : String) (symbol : Option String) (t : ValueType) :
    (symbolArm operation symbol t).map Arm.label =
      (symbol.toList.filter fun _ => t.takesSymbol operation).map fun symbol =>
        symbolLabel symbol t := by
  cases symbol with
  | none => rfl
  | some symbol =>
    cases htakes : t.takesSymbol operation with
    | true => simp [symbolArm, htakes]
    | false => simp [symbolArm, htakes]

/-- The labels of the arms for two operands of a type are those of tests on the type, and no two of
them are the same. -/
theorem pairLabels_binaryArms (operation : String) (symbol : Option String) (t : ValueType) :
    (∀ label ∈ (binaryArms operation symbol t).map Arm.label, PairLabel operation t label) ∧
      ((binaryArms operation symbol t).map Arm.label).Nodup := by
  unfold binaryArms
  rw [List.map_append, map_label_symbolArm]
  exact pairLabels_append operation t ((Option.toList_nodup symbol).filter _)

/-- So are those of the arms for a comparison on a type. -/
theorem pairLabels_comparisonArms (operation : String) (t : ValueType) :
    (∀ label ∈ (comparisonArms operation t).map Arm.label, PairLabel operation t label) ∧
      ((comparisonArms operation t).map Arm.label).Nodup :=
  @pairLabels_append operation t [] List.nodup_nil

end TestContract

end FheSolidity
