import FheSolidity.Proofs.Solidity.Brackets
import FheSolidity.Proofs.TestContract.Legible

/-!
# Brackets in test contracts

A test contract is paired, as its source and as its interface, if its key is and if every function
of it is (`TestContract.Paired`). That is so for the contract of an operation whose name has no
brackets, in whichever way the operation is tested (`TestContract.paired_of_testContract?`), and for
the contracts of the conversions (`TestContract.paired_of_mem_castings`).
-/

namespace FheSolidity

open Text

/-! ## Functions and contracts -/

/-- No part of a parameter opens or closes anything. -/
def TestParameter.Paired (p : TestParameter) : Prop :=
  Text.Paired p.name ∧ Text.Paired p.solidity ∧ Text.Paired p.script

/-- Whether a parameter opens or closes anything can be found out. -/
instance : DecidablePred TestParameter.Paired :=
  fun _ => inferInstanceAs (Decidable (_ ∧ _ ∧ _))

/-- Every part of a test function is paired. -/
structure TestFunction.Paired (f : TestFunction) : Prop where
  /-- The name is paired. -/
  name : Text.Paired f.name
  /-- The parameters are paired. -/
  parameters : ∀ p ∈ f.parameters, p.Paired
  /-- What the function returns is paired. -/
  returns : ∀ text ∈ f.returns, Text.Paired text
  /-- What the function promises is paired. -/
  promises : Text.Paired f.promises
  /-- The body is paired. -/
  body : f.body.Paired

/-- Every part of a test contract is paired. -/
structure TestContract.Paired (c : TestContract) : Prop where
  /-- The key is paired. -/
  key : Text.Paired c.key
  /-- The functions are paired. -/
  functions : ∀ f ∈ c.functions, f.Paired

namespace TestFunction

variable {f : TestFunction}

/-- A function in the contract is paired if its parts are. -/
theorem paired_code (h : f.Paired) : f.code.Paired := by
  have hlist : Text.Paired
      (", ".intercalate (f.parameters.map fun p => p.solidity ++ " " ++ p.name)) := by
    apply paired_intercalate (by decide)
    intro text htext
    obtain ⟨p, hp, rfl⟩ := List.mem_map.1 htext
    obtain ⟨hname, hsolidity, -⟩ := h.parameters p hp
    exact (hsolidity.append (by decide)).append hname
  refine Code.paired_block ?_ h.body
  unfold header Text.Paired
  cases hreturns : f.returns with
  | none =>
    simp only [String.toList_append, openAfter_append, h.name.openAfter, hlist.openAfter]
    rfl
  | some result =>
    simp only [String.toList_append, openAfter_append, h.name.openAfter, hlist.openAfter,
      (h.returns result hreturns).openAfter]
    rfl

/-- A function in the interface is paired if its parts are. -/
theorem paired_member (h : f.Paired) : f.member.Paired := by
  have hlist : Text.Paired
      (", ".intercalate (f.parameters.map fun p => p.name ++ ": " ++ p.script)) := by
    apply paired_intercalate (by decide)
    intro text htext
    obtain ⟨p, hp, rfl⟩ := List.mem_map.1 htext
    obtain ⟨hname, -, hscript⟩ := h.parameters p hp
    exact (hname.append (by decide)).append hscript
  apply Code.paired_line
  unfold Text.Paired
  simp only [String.toList_append, openAfter_append, h.name.openAfter, hlist.openAfter,
    h.promises.openAfter]
  rfl

end TestFunction

namespace TestContract

variable {c : TestContract}

/-- What stands before every contract is paired. -/
theorem paired_preamble : preamble.Paired := by
  have htypes : Text.Paired (", ".intercalate (ValueType.encryptedTypes.map ValueType.name)) := by
    apply paired_intercalate (by decide)
    intro text htext
    obtain ⟨t, -, rfl⟩ := List.mem_map.1 htext
    exact t.paired_name
  have himport : Text.Paired ("import \x7b" ++
      ", ".intercalate (ValueType.encryptedTypes.map ValueType.name) ++
        "\x7d from \"../../../contracts/FHE.sol\";") := by
    unfold Text.Paired
    simp only [String.toList_append, openAfter_append, htypes.openAfter]
    rfl
  refine ((((((((Code.paired_line ?_).append (Code.paired_line ?_)).append
    Code.paired_blank).append (Code.paired_line ?_)).append (Code.paired_line himport)).append
      (Code.paired_line ?_)).append Code.paired_blank).append (Code.paired_line ?_)).append
        Code.paired_blank
  all_goals exact paired_ofList (by decide)

/-- The source of a contract is paired if its parts are. -/
theorem paired_source (h : c.Paired) : Text.Paired c.source := by
  have hfunctions : Code.Paired (c.functions.flatMap fun f => Code.blank ++ f.code) :=
    Code.paired_flatMap fun f hf =>
      Code.paired_blank.append (TestFunction.paired_code (h.functions f hf))
  have hhead : Text.Paired ("contract " ++ c.key ++ "Test") :=
    ((by decide : Text.Paired "contract ").append h.key).append (by decide)
  exact Code.paired_render.2 (paired_preamble.append (Code.paired_block hhead
    ((Code.paired_line (by decide)).append hfunctions)))

/-- The interface of a contract is paired if its parts are. -/
theorem paired_abi (h : c.Paired) : Text.Paired c.abi := by
  have hmembers : Code.Paired (c.functions.flatMap TestFunction.member) :=
    Code.paired_flatMap fun f hf => TestFunction.paired_member (h.functions f hf)
  have hhead : Text.Paired ("export interface " ++ c.typeName ++ " extends BaseContract") :=
    ((paired_ofList (by decide) : Text.Paired "export interface ").append
      (h.key.append (by decide))).append (paired_ofList (by decide))
  exact Code.paired_render.2 ((Code.paired_block hhead hmembers).append Code.paired_blank)

/-! ## Expressions -/

variable {operation expr : String}

/-- An encrypted value is paired if the value is. -/
theorem paired_encrypt (t : ValueType) (h : Text.Paired expr) : Text.Paired (encrypt t expr) := by
  unfold encrypt Text.Paired
  simp only [String.toList_append, openAfter_append, t.unbracketed_capitalized.paired.openAfter,
    h.openAfter]
  rfl

/-- A decrypted value is paired if the value is. -/
theorem paired_decrypt (h : Text.Paired expr) : Text.Paired (decrypt expr) := by
  unfold decrypt Text.Paired
  simp only [String.toList_append, openAfter_append, h.openAfter]
  rfl

/-- A number is paired if the value that it is decrypted from is. -/
theorem paired_decryptNumber (t : ValueType) (h : Text.Paired expr) :
    Text.Paired (decryptNumber t expr) := by
  have hdecrypt := paired_decrypt h
  unfold decryptNumber
  split
  · unfold Text.Paired
    simp only [String.toList_append, openAfter_append, hdecrypt.openAfter]
    rfl
  · exact hdecrypt

/-- A statement that returns an expression is paired if the expression is. -/
theorem paired_returning (h : Text.Paired expr) : Text.Paired (returning expr) :=
  ((by decide : Text.Paired "return ").append h).append (by decide)

/-- A call of the library is paired if the name and the arguments are. -/
theorem paired_callFunction {arguments : List String} (hname : Text.Paired operation)
    (harguments : ∀ argument ∈ arguments, Text.Paired argument) :
    Text.Paired (callFunction operation arguments) := by
  have hlist : Text.Paired (", ".intercalate arguments) :=
    paired_intercalate (by decide) harguments
  unfold callFunction Text.Paired
  simp only [String.toList_append, openAfter_append, hname.openAfter, hlist.openAfter]
  rfl

/-- A call of a method is paired if its parts are. -/
theorem paired_callMethod {receiver argument : String} (hname : Text.Paired operation)
    (hreceiver : Text.Paired receiver) (hargument : Text.Paired argument) :
    Text.Paired (callMethod operation receiver argument) := by
  unfold callMethod Text.Paired
  simp only [String.toList_append, openAfter_append, hname.openAfter, hreceiver.openAfter,
    hargument.openAfter]
  rfl

end TestContract

/-! ## Arms -/

/-- Both parts of an arm are paired. -/
def Arm.Paired (arm : Arm) : Prop :=
  Text.Paired arm.label ∧ Text.Paired arm.statement

namespace Arm

/-- The condition of an arm is paired if the arm is. -/
theorem paired_condition {arm : Arm} (h : arm.Paired) : Text.Paired arm.condition := by
  unfold condition Text.Paired
  simp only [String.toList_append, openAfter_append, h.1.openAfter]
  rfl

/-- The arms after the first each close the brace before them and open another one. -/
theorem openAfter_others {arms : List Arm} (h : ∀ arm ∈ arms, arm.Paired) (pending : List Char) :
    Code.openAfter ('\x7d' :: pending) (others arms) = some ('\x7d' :: pending) := by
  induction arms with
  | nil => rfl
  | cons arm arms ih =>
    rw [List.forall_mem_cons] at h
    have hopening : Code.openAfter ('\x7d' :: pending)
        (Code.opening ("\x7d else " ++ arm.condition)) = some ('\x7d' :: pending) := by
      unfold Code.opening
      simp only [Code.openAfter_line, String.toList_append, openAfter_append,
        (paired_condition h.1).openAfter]
      rfl
    have hstatement := Code.paired_line h.1.2
    -- The brace that this arm opens is the one that the next arm closes.
    unfold others at ih ⊢
    rw [List.flatMap_cons, Code.openAfter_append, Code.openAfter_append, hopening,
      Option.bind_some, Code.openAfter_indent, hstatement.openAfter, Option.bind_some, ih h.2]

/-- The choice among some arms is paired if all of them are. -/
theorem paired_choose {arms : List Arm} (h : ∀ arm ∈ arms, arm.Paired) :
    (Arm.choose arms).Paired := by
  have hfallback : fallback.Paired := Code.paired_line (by decide)
  cases arms with
  | nil => exact hfallback
  | cons arm arms =>
    rw [List.forall_mem_cons] at h
    have helse : Code.openAfter ['\x7d'] (Code.opening "\x7d else") = some ['\x7d'] := by
      decide
    have hstatement := Code.paired_line h.1.2
    unfold choose Code.Paired
    simp only [Code.openAfter_append, Code.openAfter_opening (paired_condition h.1),
      Code.openAfter_indent, hstatement.openAfter, openAfter_others h.2, helse,
      hfallback.openAfter, Code.openAfter_closing, Option.bind_some]

end Arm

namespace TestContract

variable {operation : String}

/-! ## The arms of each template -/

/-- A number for a test is encrypted in paired brackets. -/
theorem paired_encrypt_name (t : ValueType) :
    Text.Paired (encrypt t "a") ∧ Text.Paired (encrypt t "b") :=
  ⟨paired_encrypt t (by decide), paired_encrypt t (by decide)⟩

/-- The label of the test of a function on one operand is paired if its name is. -/
theorem paired_unaryLabel (h : Text.Paired operation) (t : ValueType) :
    Text.Paired (unaryLabel operation t) := by
  unfold unaryLabel Text.Paired
  simp only [String.toList_append, openAfter_append, h.openAfter, t.paired_name.openAfter]
  rfl

/-- The label of the test of a function on two operands is paired if its name is. -/
theorem paired_functionLabel (h : Text.Paired operation) (t : ValueType) :
    Text.Paired (functionLabel operation t) := by
  unfold functionLabel Text.Paired
  simp only [String.toList_append, openAfter_append, h.openAfter, t.paired_name.openAfter]
  rfl

/-- The label of the test of a method is paired if its name is. -/
theorem paired_methodLabel (h : Text.Paired operation) (t : ValueType) :
    Text.Paired (methodLabel operation t) := by
  unfold methodLabel Text.Paired
  simp only [String.toList_append, openAfter_append, h.openAfter, t.paired_name.openAfter]
  rfl

/-- The arm that tests a symbol is paired if the symbol is. -/
theorem paired_symbolArm {symbol : Option String} (h : ∀ text ∈ symbol, Text.Paired text)
    (t : ValueType) : ∀ arm ∈ symbolArm operation symbol t, arm.Paired := by
  intro arm harm
  cases symbol with
  | none => exact absurd harm List.not_mem_nil
  | some symbol =>
    have hsymbol : Text.Paired symbol := h symbol rfl
    obtain ⟨ha, hb⟩ := paired_encrypt_name t
    unfold symbolArm at harm
    dsimp only at harm
    split at harm
    · rw [List.mem_singleton.1 harm]
      refine ⟨?_, paired_returning (paired_decryptNumber t ?_)⟩
      · exact (((t.paired_name.append (by decide)).append hsymbol).append
          (by decide)).append t.paired_name
      · exact (((ha.append (by decide)).append hsymbol).append (by decide)).append hb
    · exact absurd harm List.not_mem_nil

/-- The arms that test an operation on two operands by its result are paired if its name and its
symbol are. -/
theorem paired_binaryArms (hname : Text.Paired operation) {symbol : Option String}
    (hsymbol : ∀ text ∈ symbol, Text.Paired text) (t : ValueType) :
    ∀ arm ∈ binaryArms operation symbol t, arm.Paired := by
  obtain ⟨ha, hb⟩ := paired_encrypt_name t
  unfold binaryArms
  rw [List.forall_mem_append, List.forall_mem_cons, List.forall_mem_singleton]
  refine ⟨⟨⟨paired_functionLabel hname t, ?_⟩, paired_methodLabel hname t, ?_⟩,
    paired_symbolArm hsymbol t⟩
  · exact paired_returning (paired_decryptNumber t (paired_callFunction hname (by simp [ha, hb])))
  · exact paired_returning (paired_decryptNumber t (paired_callMethod hname ha hb))

/-- The arms that test an operation on two operands by its truth value are paired if its name is. -/
theorem paired_comparisonArms (hname : Text.Paired operation) (t : ValueType) :
    ∀ arm ∈ comparisonArms operation t, arm.Paired := by
  obtain ⟨ha, hb⟩ := paired_encrypt_name t
  unfold comparisonArms
  rw [List.forall_mem_cons, List.forall_mem_singleton]
  refine ⟨⟨paired_functionLabel hname t, ?_⟩, paired_methodLabel hname t, ?_⟩
  · exact paired_returning (paired_decrypt (paired_callFunction hname (by simp [ha, hb])))
  · exact paired_returning (paired_decrypt (paired_callMethod hname ha hb))

/-- The arm that tests an operation on one operand is paired if its name is. -/
theorem paired_unaryArm (hname : Text.Paired operation) (t : ValueType) :
    (unaryArm operation t).Paired := by
  refine ⟨paired_unaryLabel hname t, paired_returning (paired_decryptNumber t ?_)⟩
  exact paired_callFunction hname (by simp [paired_encrypt_name t])

/-- The arm that tests a choice is paired if the name of the operation is. -/
theorem paired_ternaryArm (hname : Text.Paired operation) (t : ValueType) :
    (ternaryArm operation t).Paired := by
  have hcontrol : Text.Paired (encrypt .ebool "control") := paired_encrypt .ebool (by decide)
  refine ⟨(hname.append (by decide)).append t.paired_name,
    paired_returning (paired_decryptNumber t ?_)⟩
  exact paired_callFunction hname (by simp [hcontrol, paired_encrypt_name t])

/-- The arm that tests `req` is paired. -/
theorem paired_reqArm (t : ValueType) : (reqArm t).Paired :=
  ⟨paired_unaryLabel (by decide) t,
    (paired_callFunction (by decide) (by simp [paired_encrypt_name t])).append (by decide)⟩

/-- The arm that tests `reencrypt` is paired. -/
theorem paired_reencryptArm (t : ValueType) : (reencryptArm t).Paired := by
  have hkey : Text.Paired "abi.encodePacked(pubkey)" := paired_ofList (by decide)
  exact ⟨paired_unaryLabel (by decide) t, paired_returning
    (paired_callFunction (by decide) (by simp [hkey, paired_encrypt_name t]))⟩

/-! ## The contracts -/

/-- A contract that is named for an operation is paired if the name has no brackets and every other
part of it is paired. -/
theorem paired_dispatching (hname : Unbracketed operation) {parameters : List TestParameter}
    {returns : Option String} {promises : String} {arms : List Arm}
    (hparameters : ∀ p ∈ parameters, p.Paired) (hreturns : ∀ text ∈ returns, Text.Paired text)
    (hpromises : Text.Paired promises) (harms : ∀ arm ∈ arms, arm.Paired) :
    (dispatching operation parameters returns promises arms).Paired where
  key := hname.capitalize.paired
  functions := by
    refine List.forall_mem_singleton.2 ⟨hname.paired, ?_, hreturns, hpromises, ?_⟩
    · exact List.forall_mem_cons.2 ⟨by decide, hparameters⟩
    · exact Arm.paired_choose harms

/-- The symbol that an operation is tested through is paired. -/
theorem paired_of_testTemplate? {op : Operation} {symbol : Option String}
    (h : op.testTemplate? = some (.binary symbol)) : ∀ text ∈ symbol, Text.Paired text := by
  have hall : ∀ entry ∈ Shorthand.all, ∀ text ∈ entry.symbol, Text.Paired text := by decide
  intro text htext
  obtain ⟨entry, hentry, htext⟩ := exists_shorthand_of_testTemplate? h htext
  exact hall entry hentry text htext

/-- The contract of an operation whose name has no brackets is paired, in whichever way it is
tested. -/
theorem paired_of_testContract? {op : Operation} (hname : Unbracketed op.name) {c : TestContract}
    (h : op.testContract? = some c) : c.Paired := by
  unfold Operation.testContract? at h
  obtain ⟨template, htemplate, rfl⟩ := Option.map_eq_some_iff.1 h
  cases template with
  | req =>
    refine paired_dispatching (by decide) (by decide) (by decide) (by decide) ?_
    exact List.forall_mem_map.2 fun t _ => paired_reqArm t
  | reencrypt =>
    refine paired_dispatching (by decide) (by decide) (by decide) (by decide) ?_
    exact List.forall_mem_map.2 fun t _ => paired_reencryptArm t
  | comparison =>
    refine paired_dispatching hname (by decide) (by decide) (by decide) ?_
    exact List.forall_mem_flatMap.2 fun t _ => paired_comparisonArms hname.paired t
  | binary symbol =>
    refine paired_dispatching hname (by decide) (by decide) (by decide) ?_
    exact List.forall_mem_flatMap.2 fun t _ =>
      paired_binaryArms hname.paired (paired_of_testTemplate? htemplate) t
  | unary =>
    refine paired_dispatching hname (by decide) (by decide) (by decide) ?_
    exact List.forall_mem_map.2 fun t _ => paired_unaryArm hname.paired t
  | ternary =>
    refine paired_dispatching hname (by decide) (by decide) (by decide) ?_
    exact List.forall_mem_map.2 fun t _ => paired_ternaryArm hname.paired t

/-- A function that tests a conversion is paired if what is said of its source is. -/
theorem paired_castFunction (target : ValueType) {source solidity script expr : String}
    (hsource : Text.Paired source) (hsolidity : Text.Paired solidity)
    (hscript : Text.Paired script) (hexpr : Text.Paired expr) :
    (castFunction target source solidity script expr).Paired where
  name := (((by decide : Text.Paired "castFrom").append hsource).append (by decide)).append
    target.unbracketed_capitalized.paired
  parameters := List.forall_mem_singleton.2 ⟨(by decide : Text.Paired "val"), hsolidity, hscript⟩
  returns := by
    rintro _ ⟨⟩
    show Text.Paired (castReturns target)
    unfold castReturns
    split <;> decide
  promises := by
    show Text.Paired (castPromises target)
    unfold castPromises
    split <;> decide
  body := Code.paired_line
    (paired_returning (paired_decryptNumber target (paired_encrypt target hexpr)))

/-- The contracts of the conversions are paired. -/
theorem paired_of_mem_castings {c : TestContract} (h : c ∈ castings) : c.Paired := by
  obtain ⟨target, -, rfl⟩ := List.mem_map.1 h
  refine ⟨(by decide : Text.Paired "As").append target.unbracketed_capitalized.paired, ?_⟩
  unfold casting
  rw [List.forall_mem_append, List.forall_mem_map]
  refine ⟨fun source _ => ?_, ?_⟩
  · exact paired_castFunction target source.unbracketed_capitalized.paired (by decide) (by decide)
      (paired_encrypt source (by decide))
  · simp only [List.forall_mem_cons]
    refine ⟨?_, ?_, List.forall_mem_nil _⟩
    · exact paired_castFunction target (by decide) (by decide) (by decide) (by decide)
    · exact paired_castFunction target (by decide) (by decide) (by decide) (by decide)

end TestContract

end FheSolidity
