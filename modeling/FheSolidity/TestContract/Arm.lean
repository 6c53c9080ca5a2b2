import FheSolidity.Solidity.Code

/-!
# Arms of a test function

A test function receives the label of a test and runs the statement of the first arm with that
label. Without such an arm it reverts.
-/

namespace FheSolidity

/-- A test inside a test function. -/
structure Arm where
  /-- The label by which the test is asked for. -/
  label : String
  /-- The statement that runs it. -/
  statement : String
  deriving DecidableEq, Repr

namespace Arm

open Code

/-- The condition that an arm is asked for. -/
def condition (arm : Arm) : String :=
  "if (Utils.cmp(test, \"" ++ arm.label ++ "\"))"

/-- The arms after the first. -/
def others (arms : List Arm) : Code :=
  arms.flatMap fun arm => opening ("\x7d else " ++ arm.condition) ++ indent (line arm.statement)

/-- The statement that runs when no arm is asked for. -/
def fallback : Code :=
  line "revert TestNotFound(test);"

/-- The body of a test function that chooses among some arms. -/
def choose : List Arm → Code
  | [] => fallback
  | arm :: arms =>
    opening arm.condition ++ indent (line arm.statement) ++ others arms ++
      opening "\x7d else" ++ indent fallback ++ closing

end Arm

end FheSolidity
