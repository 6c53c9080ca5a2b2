import FheSolidity.TestContract.Cast
import FheSolidity.Proofs.TestContract.Names
import FheSolidity.Proofs.Text.Uppercase

/-!
# Every test contract is legible

Nothing in a test contract but the name of its operation can break a line or end a name early. So
the contract of an operation with a simple name is legible, in whichever way the operation is tested
(`legible_of_testContract?`), and so is that of every conversion, which is named for types
(`legible_of_mem_castings`).
-/

namespace FheSolidity

open Text

/-! ## Simple names -/

/-- A name that no text breaks off early: it has no line break, no opening parenthesis and no
colon. -/
def Simple (name : String) : Prop :=
  '\n' ∉ name.toList ∧ '(' ∉ name.toList ∧ ':' ∉ name.toList

/-- Whether a name is simple can be found out. -/
instance : DecidablePred Simple :=
  fun _ => inferInstanceAs (Decidable (_ ∧ _ ∧ _))

/-- A simple name is unbroken. -/
theorem Simple.unbroken {name : String} (h : Simple name) : Unbroken name :=
  h.1

/-- Names put together are simple if each of them is. -/
@[simp] theorem simple_append {first second : String} :
    Simple (first ++ second) ↔ Simple first ∧ Simple second := by
  unfold Simple
  simp only [String.toList_append, List.mem_append, not_or]
  tauto

/-- A simple name stays so when it is capitalized. -/
theorem Simple.capitalize {name : String} (h : Simple name) : Simple (capitalize name) := by
  obtain ⟨hnewline, hparen, hcolon⟩ := h
  exact ⟨not_mem_capitalize (by decide) hnewline, not_mem_capitalize (by decide) hparen,
    not_mem_capitalize (by decide) hcolon⟩

/-- The name of a type is simple. -/
theorem ValueType.simple_name (t : ValueType) : Simple t.name :=
  ⟨t.not_mem_name (by decide), t.not_mem_name (by decide), t.not_mem_name (by decide)⟩

/-- The spelling of a type inside a longer name is simple. -/
@[simp] theorem ValueType.simple_capitalized (t : ValueType) : Simple t.capitalized :=
  t.simple_name.capitalize

/-! ## Legible functions -/

/-- No part of a parameter breaks a line. -/
def TestParameter.Unbroken (p : TestParameter) : Prop :=
  Text.Unbroken p.name ∧ Text.Unbroken p.solidity ∧ Text.Unbroken p.script

/-- Whether a parameter breaks a line can be found out. -/
instance : DecidablePred TestParameter.Unbroken :=
  fun _ => inferInstanceAs (Decidable (_ ∧ _ ∧ _))

/-- A test function is legible if its name is simple and no other part of it breaks a line. -/
theorem TestFunction.legible_of_parts {f : TestFunction} (hname : Simple f.name)
    (hparameters : ∀ p ∈ f.parameters, p.Unbroken) (hreturns : ∀ text ∈ f.returns, Unbroken text)
    (hpromises : Unbroken f.promises) (hbody : f.body.Unbroken) : f.Legible where
  paren := hname.2.1
  colon := hname.2.2
  header := by
    have hlist : Unbroken
        (", ".intercalate (f.parameters.map fun p => p.solidity ++ " " ++ p.name)) := by
      apply unbroken_intercalate (by decide)
      intro text htext
      obtain ⟨p, hp, rfl⟩ := List.mem_map.1 htext
      obtain ⟨hp, hsolidity, -⟩ := hparameters p hp
      simp +decide [hp, hsolidity]
    unfold header
    cases hresult : f.returns with
    | none => simp +decide [hname.unbroken, hlist]
    | some result => simp +decide [hname.unbroken, hlist, hreturns result hresult]
  body := hbody
  member := by
    have hlist : Unbroken
        (", ".intercalate (f.parameters.map fun p => p.name ++ ": " ++ p.script)) := by
      apply unbroken_intercalate (by decide)
      intro text htext
      obtain ⟨p, hp, rfl⟩ := List.mem_map.1 htext
      obtain ⟨hp, -, hscript⟩ := hparameters p hp
      simp +decide [hp, hscript]
    unfold member
    simp +decide [hname.unbroken, hlist, hpromises]

/-! ## Expressions -/

namespace TestContract

variable {t : ValueType} {operation expr : String}

/-- An encrypted value is unbroken if the value is. -/
@[simp] theorem unbroken_encrypt : Unbroken (encrypt t expr) ↔ Unbroken expr := by
  unfold encrypt
  simp +decide [t.simple_capitalized.unbroken]

/-- A decrypted value is unbroken if the value is. -/
@[simp] theorem unbroken_decrypt : Unbroken (decrypt expr) ↔ Unbroken expr := by
  unfold decrypt
  simp +decide

/-- A number is unbroken if the value that it is decrypted from is. -/
@[simp] theorem unbroken_decryptNumber : Unbroken (decryptNumber t expr) ↔ Unbroken expr := by
  unfold decryptNumber
  split
  · simp +decide
  · exact unbroken_decrypt

/-- A statement that returns an expression is unbroken if the expression is. -/
@[simp] theorem unbroken_returning : Unbroken (returning expr) ↔ Unbroken expr := by
  unfold returning
  simp +decide

/-- A call of the library is unbroken if the name and the arguments are. -/
theorem unbroken_callFunction {arguments : List String} (hname : Unbroken operation)
    (harguments : ∀ argument ∈ arguments, Unbroken argument) :
    Unbroken (callFunction operation arguments) := by
  have hlist : Unbroken (", ".intercalate arguments) :=
    unbroken_intercalate (by decide) harguments
  unfold callFunction
  simp +decide [hname, hlist]

end TestContract

/-! ## Arms -/

/-- Neither part of an arm breaks a line. -/
def Arm.Unbroken (arm : Arm) : Prop :=
  Text.Unbroken arm.label ∧ Text.Unbroken arm.statement

/-- The choice among some arms is unbroken if all of them are. -/
theorem Arm.unbroken_choose {arms : List Arm} (h : ∀ arm ∈ arms, arm.Unbroken) :
    (Arm.choose arms).Unbroken := by
  have hcondition : ∀ arm ∈ arms, Text.Unbroken arm.condition := by
    intro arm harm
    unfold condition
    simp +decide [(h arm harm).1]
  have hfallback : fallback.Unbroken := Code.unbroken_line.2 (by decide)
  cases arms with
  | nil => exact hfallback
  | cons arm arms =>
    rw [List.forall_mem_cons] at h hcondition
    have hothers : (others arms).Unbroken := by
      apply Code.unbroken_flatMap
      intro other hother
      unfold Code.opening
      simp +decide [hcondition.2 other hother, (h.2 other hother).2]
    unfold choose Code.opening Code.closing
    simp +decide [hcondition.1, h.1.2, hothers, hfallback]

namespace TestContract

variable {operation : String}

/-- The arm that tests a symbol is unbroken if the symbol is. -/
theorem unbroken_symbolArm {symbol : Option String} (h : ∀ text ∈ symbol, Unbroken text)
    (t : ValueType) : ∀ arm ∈ symbolArm operation symbol t, arm.Unbroken := by
  intro arm harm
  cases symbol with
  | none => exact absurd harm List.not_mem_nil
  | some symbol =>
    have hsymbol : Unbroken symbol := h symbol rfl
    unfold symbolArm at harm
    dsimp only at harm
    split at harm
    · rw [List.mem_singleton.1 harm]
      unfold Arm.Unbroken symbolLabel
      simp +decide [hsymbol]
    · exact absurd harm List.not_mem_nil

/-- The arms that test an operation on two operands by its result are unbroken if its name and its
symbol are. -/
theorem unbroken_binaryArms (hname : Unbroken operation) {symbol : Option String}
    (hsymbol : ∀ text ∈ symbol, Unbroken text) (t : ValueType) :
    ∀ arm ∈ binaryArms operation symbol t, arm.Unbroken := by
  unfold binaryArms
  rw [List.forall_mem_append]
  refine ⟨?_, unbroken_symbolArm hsymbol t⟩
  unfold Arm.Unbroken functionLabel methodLabel callMethod
  simp +decide [hname, unbroken_callFunction]

/-- The arms that test an operation on two operands by its truth value are unbroken if its name
is. -/
theorem unbroken_comparisonArms (hname : Unbroken operation) (t : ValueType) :
    ∀ arm ∈ comparisonArms operation t, arm.Unbroken := by
  unfold comparisonArms Arm.Unbroken functionLabel methodLabel callMethod
  simp +decide [hname, unbroken_callFunction]

/-- The arm that tests an operation on one operand is unbroken if its name is. -/
theorem unbroken_unaryArm (hname : Unbroken operation) (t : ValueType) :
    (unaryArm operation t).Unbroken := by
  unfold unaryArm Arm.Unbroken unaryLabel
  simp +decide [hname, unbroken_callFunction]

/-- The arm that tests a choice is unbroken if the name of the operation is. -/
theorem unbroken_ternaryArm (hname : Unbroken operation) (t : ValueType) :
    (ternaryArm operation t).Unbroken := by
  unfold ternaryArm Arm.Unbroken ternaryLabel
  simp +decide [hname, unbroken_callFunction]

/-- The arm that tests `req` is unbroken. -/
theorem unbroken_reqArm (t : ValueType) : (reqArm t).Unbroken := by
  unfold reqArm Arm.Unbroken unaryLabel
  simp +decide [unbroken_callFunction]

/-- The arm that tests `reencrypt` is unbroken. -/
theorem unbroken_reencryptArm (t : ValueType) : (reencryptArm t).Unbroken := by
  unfold reencryptArm Arm.Unbroken unaryLabel
  simp +decide [unbroken_callFunction]

/-! ## Contracts -/

/-- A contract that is named for an operation is legible if the name is simple and nothing else in
it breaks a line. -/
theorem legible_dispatching (hname : Simple operation) {parameters : List TestParameter}
    {returns : Option String} {promises : String} {arms : List Arm}
    (hparameters : ∀ p ∈ parameters, p.Unbroken) (hreturns : ∀ text ∈ returns, Unbroken text)
    (hpromises : Unbroken promises) (harms : ∀ arm ∈ arms, arm.Unbroken) :
    (dispatching operation parameters returns promises arms).Legible where
  key := hname.capitalize.unbroken
  functions := by
    refine List.forall_mem_singleton.2 ?_
    refine TestFunction.legible_of_parts hname ?_ hreturns hpromises (Arm.unbroken_choose harms)
    exact List.forall_mem_cons.2 ⟨by decide, hparameters⟩

/-- The symbol that an operation is tested through is that of a shorthand. -/
theorem exists_shorthand_of_testTemplate? {op : Operation} {symbol : Option String} {text : String}
    (h : op.testTemplate? = some (.binary symbol)) (htext : text ∈ symbol) :
    ∃ entry ∈ Shorthand.all, text ∈ entry.symbol := by
  have hsymbol : symbol = Shorthand.symbolOf? op.name := by
    unfold Operation.testTemplate? at h
    grind
  rw [hsymbol] at htext
  obtain ⟨entry, hentry, htext⟩ := Option.bind_eq_some_iff.1 htext
  exact ⟨entry, List.mem_of_find?_eq_some hentry, htext⟩

/-- The symbol that an operation is tested through is unbroken. -/
theorem unbroken_of_testTemplate? {op : Operation} {symbol : Option String}
    (h : op.testTemplate? = some (.binary symbol)) : ∀ text ∈ symbol, Unbroken text := by
  have hall : ∀ entry ∈ Shorthand.all, ∀ text ∈ entry.symbol, Unbroken text := by decide
  intro text htext
  obtain ⟨entry, hentry, htext⟩ := exists_shorthand_of_testTemplate? h htext
  exact hall entry hentry text htext

/-- The contract of an operation with a simple name is legible, in whichever way it is tested. -/
theorem legible_of_testContract? {op : Operation} (hname : Simple op.name) {c : TestContract}
    (h : op.testContract? = some c) : c.Legible := by
  unfold Operation.testContract? at h
  obtain ⟨template, htemplate, rfl⟩ := Option.map_eq_some_iff.1 h
  cases template with
  | req =>
    refine legible_dispatching (by decide +kernel) (by decide) (by decide) (by decide) ?_
    exact List.forall_mem_map.2 fun t _ => unbroken_reqArm t
  | reencrypt =>
    refine legible_dispatching (by decide +kernel) (by decide) (by decide) (by decide) ?_
    exact List.forall_mem_map.2 fun t _ => unbroken_reencryptArm t
  | comparison =>
    refine legible_dispatching hname (by decide) (by decide) (by decide) ?_
    exact List.forall_mem_flatMap.2 fun t _ => unbroken_comparisonArms hname.unbroken t
  | binary symbol =>
    refine legible_dispatching hname (by decide) (by decide) (by decide) ?_
    exact List.forall_mem_flatMap.2 fun t _ =>
      unbroken_binaryArms hname.unbroken (unbroken_of_testTemplate? htemplate) t
  | unary =>
    refine legible_dispatching hname (by decide) (by decide) (by decide) ?_
    exact List.forall_mem_map.2 fun t _ => unbroken_unaryArm hname.unbroken t
  | ternary =>
    refine legible_dispatching hname (by decide) (by decide) (by decide) ?_
    exact List.forall_mem_map.2 fun t _ => unbroken_ternaryArm hname.unbroken t

/-- A function that tests a conversion is legible if its source has a simple name and nothing else
that is said of the source breaks a line. -/
theorem legible_castFunction (target : ValueType) {source solidity script expr : String}
    (hsource : Simple source) (hsolidity : Unbroken solidity) (hscript : Unbroken script)
    (hexpr : Unbroken expr) : (castFunction target source solidity script expr).Legible := by
  have hname : Simple ("castFrom" ++ source ++ "To" ++ target.capitalized) := by
    simp +decide [hsource]
  have hreturns : Unbroken (castReturns target) := by
    unfold castReturns
    split <;> decide
  have hpromises : Unbroken (castPromises target) := by
    unfold castPromises
    split <;> decide
  refine TestFunction.legible_of_parts hname ?_ ?_ hpromises ?_
  · exact List.forall_mem_singleton.2 ⟨(by decide : Unbroken "val"), hsolidity, hscript⟩
  · rintro _ ⟨⟩
    exact hreturns
  · exact Code.unbroken_line.2 (by simp [hexpr])

/-- The contracts of the conversions are legible. -/
theorem legible_of_mem_castings {c : TestContract} (h : c ∈ castings) : c.Legible := by
  obtain ⟨target, -, rfl⟩ := List.mem_map.1 h
  refine ⟨?_, ?_⟩
  · unfold casting
    simp +decide [target.simple_capitalized.unbroken]
  · unfold casting
    rw [List.forall_mem_append, List.forall_mem_map]
    refine ⟨fun source _ => ?_, ?_⟩
    · exact legible_castFunction target source.simple_capitalized (by decide) (by decide)
        (unbroken_encrypt.2 (by decide))
    · simp only [List.forall_mem_cons]
      refine ⟨?_, ?_, List.forall_mem_nil _⟩
      · exact legible_castFunction target (by decide) (by decide) (by decide) (by decide)
      · exact legible_castFunction target (by decide) (by decide) (by decide) (by decide)

end TestContract

end FheSolidity
