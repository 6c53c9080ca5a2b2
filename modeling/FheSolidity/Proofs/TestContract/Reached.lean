import FheSolidity.Proofs.TestContract.Arms

/-!
# Which arm a test reaches

A test function goes through its conditions in order and runs the statement behind the first one
that asks for the test (`Arm.run`). An arm whose label stands further up as well could never be
reached. There is none: the labels of a contract are all different, whatever the operation is called
and whatever its symbol is, so that each arm is reached by its own label and by no other text, and
every text that is no label comes to the revert at the end (`arms_reached`).

Labels are compared as they are written. They stand in the conditions between quotes, so Solidity
compares them in the same way as long as no label has a quote, a backslash or a line break.
-/

namespace FheSolidity

/-! ## Running a choice -/

namespace Arm

/-- The line that opens an arm with a label if no other arm stands before it. -/
def question (label : String) : String :=
  "if (Utils.cmp(test, \"" ++ label ++ "\")) \x7b"

/-- Whether a line opens an arm that asks for a label, be it the first arm or a later one. The label
is compared as it is written, as a part of the text of the line. That is what Solidity does for a
label without a quote, a backslash or a line break; any other label it reads as something else than
what is written, if it can read the line at all. -/
def AsksFor (label : String) (l : Line) : Prop :=
  l.text = question label ∨ l.text = "\x7d else " ++ question label

/-- Whether a line asks for a label can be found out. -/
instance (label : String) (l : Line) : Decidable (AsksFor label l) :=
  inferInstanceAs (Decidable (_ ∨ _))

/-- Runs the body of a test function for the label of a test. The lines come in pairs of a condition
and the statement behind it, and a statement alone is run as it is. The result is the statement that
is run and how many conditions failed before. Labels are compared as they are written (`AsksFor`),
as Solidity does it for labels without a quote, a backslash or a line break only. -/
def run (label : String) : Code → Option (Nat × String)
  | condition :: statement :: rest =>
    if AsksFor label condition ∨ condition.text = "\x7d else \x7b" then some (0, statement.text)
    else (run label rest).map fun (failed, text) => (failed + 1, text)
  | [statement] => some (0, statement.text)
  | [] => none

/-- The statement that a label comes to among some arms, and how many arms stand before it. It is
that of the first arm with the label, and the revert if there is none. -/
def comesTo (label : String) : List Arm → Nat × String
  | [] => (0, "revert TestNotFound(test);")
  | arm :: arms =>
    if arm.label = label then (0, arm.statement)
    else ((comesTo label arms).1 + 1, (comesTo label arms).2)

variable {label : String} {arm : Arm} {arms : List Arm}

/-- An arm opens with the question for its label. -/
theorem condition_append (arm : Arm) : arm.condition ++ " \x7b" = question arm.label := by
  unfold condition question
  simp only [String.append_assoc, String.reduceAppend]

/-- A question tells the label that it asks for. -/
theorem question_inj {label' : String} : question label = question label' ↔ label = label' := by
  unfold question
  rw [String.append_left_inj, String.append_right_inj]

/-- A question is no text that starts with another character than its own. -/
theorem question_ne (c : Char) (hc : c ≠ 'i') {text : String} {rest : List Char}
    (htext : text.toList = c :: rest) : question label ≠ text := by
  rintro rfl
  unfold question at htext
  simp only [String.toList_append, List.append_assoc] at htext
  exact hc (List.cons.inj htext).1.symm

/-- The question of the first arm is none of a later arm. -/
theorem question_ne_else_question {label' : String} :
    question label ≠ "\x7d else " ++ question label' :=
  question_ne '\x7d' (by decide) (by rw [String.toList_append]; rfl)

/-- The line behind the last arm is no question. -/
theorem question_ne_else : question label ≠ "\x7d else \x7b" :=
  question_ne '\x7d' (by decide) rfl

/-- Nor is it one behind another arm. -/
theorem else_question_ne_else : "\x7d else " ++ question label ≠ "\x7d else \x7b" := by
  rw [show "\x7d else \x7b" = "\x7d else " ++ "\x7b" from rfl]
  exact fun h => question_ne '\x7b' (by decide) rfl ((String.append_right_inj _).1 h)

/-- The line that opens the first arm asks for the label of the arm. -/
theorem asksFor_first_iff {depth : Nat} :
    AsksFor label ⟨depth, arm.condition ++ " \x7b"⟩ ↔ arm.label = label := by
  unfold AsksFor
  rw [condition_append, or_iff_left question_ne_else_question, question_inj]

/-- So does the line that opens a later arm. -/
theorem asksFor_later_iff {depth : Nat} :
    AsksFor label ⟨depth, "\x7d else " ++ arm.condition ++ " \x7b"⟩ ↔ arm.label = label := by
  unfold AsksFor
  rw [String.append_assoc, condition_append, or_iff_right question_ne_else_question.symm,
    String.append_right_inj, question_inj]

/-- A run that comes to an arm runs its statement if its label is asked for, and goes on
otherwise. -/
theorem run_arm {condition : Line} (hcondition : AsksFor label condition ↔ arm.label = label)
    (helse : condition.text ≠ "\x7d else \x7b") {rest : Code}
    (hrest : run label rest = some (comesTo label arms)) :
    run label (condition :: ⟨1, arm.statement⟩ :: rest) = some (comesTo label (arm :: arms)) := by
  simp only [run, hcondition, helse, or_false, hrest, comesTo]
  split
  · rfl
  · rfl

/-- Behind the first arm a run goes on through the other ones to the revert. -/
theorem run_others : run label (others arms ++ Code.opening "\x7d else" ++ Code.indent fallback ++
    Code.closing) = some (comesTo label arms) := by
  induction arms with
  | nil => rfl
  | cons arm arms ih =>
    apply run_arm asksFor_later_iff
    · show _ ++ _ ++ _ ≠ _
      rw [String.append_assoc, condition_append]
      exact else_question_ne_else
    · exact ih

/-- A run of a choice comes to the first arm with the label, or to the revert. -/
theorem run_choose : run label (choose arms) = some (comesTo label arms) := by
  cases arms with
  | nil => rfl
  | cons arm arms =>
    apply run_arm asksFor_first_iff
    · show _ ++ _ ≠ _
      rw [condition_append]
      exact question_ne_else
    · exact run_others

/-- A label that no arm has comes to the revert. -/
theorem comesTo_of_not_mem (h : label ∉ arms.map Arm.label) :
    comesTo label arms = (arms.length, "revert TestNotFound(test);") := by
  induction arms with
  | nil => rfl
  | cons arm arms ih =>
    rw [List.map_cons, List.mem_cons, not_or] at h
    rw [comesTo, if_neg (Ne.symm h.1), ih h.2, List.length_cons]

/-- Among arms with different labels, the label of an arm comes to that arm. -/
theorem comesTo_getElem (h : (arms.map Arm.label).Nodup) {i : Nat} (hi : i < arms.length) :
    comesTo arms[i].label arms = (i, arms[i].statement) := by
  induction arms generalizing i with
  | nil => exact absurd hi (Nat.not_lt_zero i)
  | cons arm arms ih =>
    rw [List.map_cons, List.nodup_cons] at h
    cases i with
    | zero => rw [comesTo, List.getElem_cons_zero, if_pos rfl]
    | succ i =>
      have hi : i < arms.length := Nat.lt_of_succ_lt_succ hi
      -- The arm before has another label than any arm behind it.
      have hne : arm.label ≠ arms[i].label := by
        intro heq
        exact h.1 (heq ▸ List.mem_map_of_mem (List.getElem_mem hi))
      rw [comesTo, List.getElem_cons_succ, if_neg hne, ih h.2 hi]

/-- Among arms with different labels, a run reaches an arm for its label and for no other text. -/
theorem run_choose_eq_arm_iff (h : (arms.map Arm.label).Nodup) {i : Nat} (hi : i < arms.length) :
    run label (choose arms) = some (i, arms[i].statement) ↔ label = arms[i].label := by
  rw [run_choose, Option.some.injEq]
  constructor
  · intro hreached
    by_cases hmem : label ∈ arms.map Arm.label
    · -- Some arm has the label, and it is the one that is reached.
      obtain ⟨arm, harm, rfl⟩ := List.mem_map.1 hmem
      obtain ⟨j, hj, rfl⟩ := List.getElem_of_mem harm
      rw [comesTo_getElem h hj] at hreached
      have hij : j = i := congrArg Prod.fst hreached
      simp only [hij]
    · rw [comesTo_of_not_mem hmem] at hreached
      have hlength : arms.length = i := congrArg Prod.fst hreached
      omega
  · rintro rfl
    exact comesTo_getElem h hi

/-- Among arms with different labels, a run comes to the revert for every text that is no label. -/
theorem run_choose_eq_revert_iff (h : (arms.map Arm.label).Nodup) :
    run label (choose arms) = some (arms.length, "revert TestNotFound(test);") ↔
      label ∉ arms.map Arm.label := by
  rw [run_choose, Option.some.injEq]
  constructor
  · intro hreverts hmem
    obtain ⟨arm, harm, rfl⟩ := List.mem_map.1 hmem
    obtain ⟨i, hi, rfl⟩ := List.getElem_of_mem harm
    rw [comesTo_getElem h hi] at hreverts
    have hlength : i = arms.length := congrArg Prod.fst hreverts
    omega
  · exact comesTo_of_not_mem

end Arm

/-! ## Contracts -/

/-- A contract tells the tests of an operation apart: it chooses among some arms by labels that are
all different. So each arm is reached for its label alone, and every other text comes to the
revert. -/
structure TestContract.TellsApart (c : TestContract) (operation : String) (arms : List Arm) :
    Prop where
  /-- The arms are those that the contract chooses among. -/
  chooses : c.Chooses operation arms
  /-- No label is there twice. -/
  nodup : (arms.map Arm.label).Nodup
  /-- An arm is reached for its label and for no other text. -/
  reached : ∀ f ∈ c.functions, ∀ i (hi : i < arms.length) label,
    Arm.run label f.body = some (i, arms[i].statement) ↔ label = arms[i].label
  /-- The revert at the end is reached for every text that is no label, and for no label. -/
  reverts : ∀ f ∈ c.functions, ∀ label,
    Arm.run label f.body = some (arms.length, "revert TestNotFound(test);") ↔
      label ∉ arms.map Arm.label

namespace TestContract

variable {operation : String}

/-- A contract tells its tests apart if the labels of its arms are all different. -/
theorem tellsApart_dispatching {parameters : List TestParameter} {returns : Option String}
    {promises : String} {arms : List Arm} (h : (arms.map Arm.label).Nodup) :
    (dispatching operation parameters returns promises arms).TellsApart operation arms where
  chooses := chooses_dispatching operation parameters returns promises arms
  nodup := h
  reached := by
    intro f hf i hi label
    rw [List.mem_singleton.1 hf]
    exact Arm.run_choose_eq_arm_iff h hi
  reverts := by
    intro f hf label
    rw [List.mem_singleton.1 hf]
    exact Arm.run_choose_eq_revert_iff h

/-- Every contract of an operation tells its tests apart, whatever the operation is called, whatever
its symbol is if it has one, and whether or not it is tested on truth values: the contract for two
operands by their result, that by their truth value, and those for one and for three operands. -/
theorem arms_reached (operation : String) (symbol : Option String) (booleanMath : Bool) :
    (binary operation booleanMath symbol).TellsApart operation
      ((testedTypes booleanMath).flatMap (binaryArms operation symbol)) ∧
    (comparison operation booleanMath).TellsApart operation
      ((testedTypes booleanMath).flatMap (comparisonArms operation)) ∧
    (unary operation).TellsApart operation ((testedTypes false).map (unaryArm operation)) ∧
    (ternary operation).TellsApart operation ((testedTypes false).map (ternaryArm operation)) := by
  refine ⟨?_, ?_, ?_, ?_⟩
  · apply tellsApart_dispatching
    rw [List.map_flatMap]
    exact nodup_flatMap_pairLabels (fun t => (pairLabels_binaryArms operation symbol t).2)
      (fun t => (pairLabels_binaryArms operation symbol t).1) (nodup_testedTypes booleanMath)
  · apply tellsApart_dispatching
    rw [List.map_flatMap]
    exact nodup_flatMap_pairLabels (fun t => (pairLabels_comparisonArms operation t).2)
      (fun t => (pairLabels_comparisonArms operation t).1) (nodup_testedTypes booleanMath)
  · apply tellsApart_dispatching
    rw [List.map_map]
    exact (nodup_testedTypes false).map (unaryLabel_injective operation)
  · apply tellsApart_dispatching
    rw [List.map_map]
    exact (nodup_testedTypes false).map (ternaryLabel_injective operation)

end TestContract

end FheSolidity
