import FheSolidity.Proofs.Expansion
import FheSolidity.Proofs.Solidity.Head

/-!
# The methods of a type

The methods of a type are looked for among the overloads of all operations, but can be told from the
descriptions of the operations. An operation applies to a type that is a candidate of each of its
parameters; then it has one overload on operands of that type alone, and otherwise it has none. So
the first such overload of a name is that of the first operation of this name that applies to the
type (`find?_isHomogeneous_of_expandAll`), and `Binding.find_of_expandAll` reads the methods off the
operations. The head of a method is written from two flags; `Binding.exists_signature_of_mem_find`
says for which operations these suffice for the call in its body to be well typed.
-/

namespace FheSolidity

namespace Operation

/-- An operation applies to a type if it has parameters and the type is a candidate of each. -/
def AppliesTo (op : Operation) (t : ValueType) : Prop :=
  op.params ≠ [] ∧ ∀ list ∈ op.candidates, t ∈ list

/-- Whether an operation applies to a type can be found out. -/
instance (op : Operation) (t : ValueType) : Decidable (op.AppliesTo t) :=
  inferInstanceAs (Decidable (op.params ≠ [] ∧ ∀ list ∈ op.candidates, t ∈ list))

end Operation

namespace Signature

/-- Operands of one type are repetitions of it, of which there is at least one. -/
theorem isHomogeneous_iff {sig : Signature} {t : ValueType} :
    sig.isHomogeneous t = true ↔ sig.arity ≠ 0 ∧ sig.inputs = List.replicate sig.arity t := by
  unfold isHomogeneous arity
  rw [Bool.and_eq_true, Bool.not_eq_true', List.isEmpty_eq_false_iff, List.all_eq_true,
    List.eq_replicate_iff, and_iff_right rfl]
  simp only [beq_iff_eq, ne_eq, List.length_eq_zero_iff]

end Signature

/-! ## Overloads on one type -/

namespace Operation

/-- The overload of an operation on operands of one type, if its rule gives a result. -/
def homogeneous? (op : Operation) (t : ValueType) : Option Signature :=
  (op.overload (List.replicate op.arity t)).toOption

/-- The overload on operands of one type has the name of the operation, the type for each parameter,
and the result that the rule finds. -/
theorem homogeneous?_eq_some_iff {op : Operation} {t : ValueType} {sig : Signature} :
    op.homogeneous? t = some sig ↔ sig.inputs = List.replicate op.arity t ∧ sig.name = op.name ∧
      op.result.resolve op.name sig.inputs = .ok sig.result := by
  rw [← overload_eq_ok_iff, homogeneous?]
  cases op.overload (List.replicate op.arity t) with
  | ok sig' => rw [Except.toOption, Option.some.injEq, Except.ok.injEq]
  | error e => exact iff_of_false (nomatch ·) (nomatch ·)

/-- An operation that applies to a type has an overload on operands of the type alone. -/
theorem exists_homogeneous?_eq_some {op : Operation} {sigs : List Signature}
    (h : op.expand = .ok sigs) {t : ValueType} (happlies : op.AppliesTo t) :
    ∃ sig ∈ sigs, op.homogeneous? t = some sig := by
  obtain ⟨hinputs, hsigs⟩ := expandIn_eq_ok_iff.1 h
  have htakes : op.Takes (List.replicate op.arity t) := takes_replicate_iff.2 happlies
  have hmem : List.replicate op.arity t ∈ sigs.map Signature.inputs := by
    rw [hinputs]
    exact mem_combinations_candidates_iff.2 htakes
  obtain ⟨sig, hsig, hreplicate⟩ := List.mem_map.1 hmem
  exact ⟨sig, hsig, homogeneous?_eq_some_iff.2 ⟨hreplicate, hsigs sig hsig⟩⟩

/-- An overload on operands of one type is the one that an operation has if it applies to the
type. -/
theorem isHomogeneous_of_mem_expand_iff {op : Operation} {sigs : List Signature}
    (h : op.expand = .ok sigs) {sig : Signature} (hsig : sig ∈ sigs) {t : ValueType} :
    sig.isHomogeneous t = true ↔ op.AppliesTo t ∧ op.homogeneous? t = some sig := by
  obtain ⟨hname, hinputs, hresult⟩ := mem_expandIn h sig hsig
  rw [Signature.isHomogeneous_iff, arity_of_mem_expandIn h hsig, homogeneous?_eq_some_iff]
  constructor
  · intro hsig
    -- The inputs are candidates of the parameters, so the type is a candidate of each.
    obtain ⟨hpos, hreplicate⟩ := hsig
    have hparams : op.params ≠ [] := fun hnil => hpos (List.length_eq_zero_iff.2 hnil)
    rw [hreplicate] at hinputs
    exact ⟨takes_replicate_iff.1 ⟨hparams, hinputs⟩, hreplicate, hname, hresult⟩
  · intro hsig
    obtain ⟨happlies, hreplicate, -, -⟩ := hsig
    exact ⟨fun hzero => happlies.1 (List.length_eq_zero_iff.1 hzero), hreplicate⟩

/-- The first operation of a name that applies to a type is one. -/
theorem of_find?_appliesTo {ops : List Operation} {name : String} {t : ValueType} {op : Operation}
    (h : ops.find? (fun op => op.name = name ∧ op.AppliesTo t) = some op) :
    op ∈ ops ∧ op.name = name ∧ op.AppliesTo t := by
  refine ⟨List.mem_of_find?_eq_some h, ?_⟩
  have hmatch := List.find?_some h
  exact of_decide_eq_true hmatch

end Operation

/-- The first overload of a name on operands of one type is that of the first operation of the name
that applies to the type. -/
theorem find?_isHomogeneous_of_expandAll {ops : List Operation} {sigs : List Signature}
    (h : expandAll ops = .ok sigs) (name : String) (t : ValueType) :
    sigs.find? (fun sig => sig.name == name && sig.isHomogeneous t) =
      (ops.find? fun op => op.name = name ∧ op.AppliesTo t).bind fun op => op.homogeneous? t := by
  obtain ⟨families, hfamilies, rfl⟩ := expandAll_eq_ok_iff.1 h
  clear h
  -- The families are searched in the order of their operations.
  induction hfamilies with
  | nil => rfl
  | @cons op family ops families hop _ ih =>
    have hmatch : ∀ sig ∈ family, (sig.name == name && sig.isHomogeneous t) = true ↔
        op.name = name ∧ op.AppliesTo t ∧ op.homogeneous? t = some sig := by
      intro sig hsig
      rw [Bool.and_eq_true, beq_iff_eq, (Operation.mem_expandIn hop sig hsig).1,
        Operation.isHomogeneous_of_mem_expand_iff hop hsig]
    rw [List.flatten_cons, List.find?_append, ih, List.find?_cons]
    cases hfind : family.find? fun sig => sig.name == name && sig.isHomogeneous t with
    | some sig =>
      -- The operation has such an overload, so that no later operation is asked.
      have hsig := List.find?_some hfind
      rw [hmatch sig (List.mem_of_find?_eq_some hfind)] at hsig
      obtain ⟨hname, happlies, hsome⟩ := hsig
      rw [decide_eq_true ⟨hname, happlies⟩, Option.some_or]
      exact hsome.symm
    | none =>
      -- An operation that applied would have such an overload, so this one is passed over too.
      have hskip : ¬(op.name = name ∧ op.AppliesTo t) := by
        intro happlies
        obtain ⟨sig, hsig, hsome⟩ := Operation.exists_homogeneous?_eq_some hop happlies.2
        have hfound := (hmatch sig hsig).2 ⟨happlies.1, happlies.2, hsome⟩
        exact List.find?_eq_none.1 hfind sig hsig hfound
      rw [decide_eq_false hskip, Option.none_or]

/-! ## Methods -/

namespace Binding

/-- An overload on operands of one type may always become a method of the type. -/
theorem admits_of_isHomogeneous {sig : Signature} {t : ValueType} (h : sig.isHomogeneous t = true) :
    admits t sig = true := by
  unfold admits
  cases hcomparison : t.isComparisonOnly with
  | false => rfl
  | true =>
    rw [Bool.not_true, Bool.false_or, List.all_eq_true]
    intro input hinput
    rw [(Signature.isHomogeneous_iff.1 h).2] at hinput
    rw [List.eq_of_mem_replicate hinput]
    exact hcomparison

/-- The method that an operation gives a type is that of the first overload on the type alone: the
check for comparison-only types turns none away. -/
theorem find?_eq_map (t : ValueType) (sigs : List Signature) (name : String) :
    find? t sigs name =
      (sigs.find? fun sig => sig.name == name && sig.isHomogeneous t).map ofSignature := by
  unfold find?
  cases hfind : sigs.find? fun sig => sig.name == name && sig.isHomogeneous t with
  | none => rfl
  | some sig =>
    have hmatch := List.find?_some hfind
    rw [Bool.and_eq_true] at hmatch
    exact if_pos (admits_of_isHomogeneous hmatch.2)

/-- A type has a method for an operation exactly if some operation of this name applies to the type,
and then the method is that of the first one. -/
theorem find?_eq_some_iff {ops : List Operation} {sigs : List Signature}
    (h : expandAll ops = .ok sigs) {t : ValueType} {name : String} {b : Binding} :
    find? t sigs name = some b ↔
      ∃ op sig, ops.find? (fun op => op.name = name ∧ op.AppliesTo t) = some op ∧
        op.homogeneous? t = some sig ∧ b = ofSignature sig := by
  rw [find?_eq_map, find?_isHomogeneous_of_expandAll h, Option.map_eq_some_iff]
  simp only [Option.bind_eq_some_iff]
  constructor
  · intro h
    obtain ⟨sig, ⟨op, hop, hsig⟩, hb⟩ := h
    exact ⟨op, sig, hop, hsig, hb.symm⟩
  · intro h
    obtain ⟨op, sig, hop, hsig, rfl⟩ := h
    exact ⟨sig, ⟨op, hop, hsig⟩, rfl⟩

/-- A type has a method for an operation if some operation of this name applies to the type. -/
theorem isSome_find?_iff {ops : List Operation} {sigs : List Signature}
    (h : expandAll ops = .ok sigs) {t : ValueType} {name : String} :
    (find? t sigs name).isSome = true ↔ ∃ op ∈ ops, op.name = name ∧ op.AppliesTo t := by
  rw [Option.isSome_iff_exists]
  constructor
  · intro hsome
    obtain ⟨b, hb⟩ := hsome
    obtain ⟨op, -, hfind, -, -⟩ := (find?_eq_some_iff h).1 hb
    exact ⟨op, Operation.of_find?_appliesTo hfind⟩
  · intro hsome
    obtain ⟨op, hop, happlies⟩ := hsome
    have hfound : (ops.find? fun op => op.name = name ∧ op.AppliesTo t).isSome = true :=
      List.find?_isSome.2 ⟨op, hop, decide_eq_true happlies⟩
    obtain ⟨first, hfirst⟩ := Option.isSome_iff_exists.1 hfound
    obtain ⟨hmem, -, hfirstApplies⟩ := Operation.of_find?_appliesTo hfirst
    obtain ⟨family, hfamily, -⟩ := exists_expand_of_mem h hmem
    obtain ⟨sig, -, hsig⟩ := Operation.exists_homogeneous?_eq_some hfamily hfirstApplies
    exact ⟨ofSignature sig, (find?_eq_some_iff h).2 ⟨first, sig, hfirst, hsig, rfl⟩⟩

/-- A method for an operation is called as the operation. -/
theorem operation_of_find?_eq_some {t : ValueType} {sigs : List Signature} {name : String}
    {b : Binding} (h : find? t sigs name = some b) : b.operation = name := by
  rw [find?_eq_map, Option.map_eq_some_iff] at h
  obtain ⟨sig, hsig, rfl⟩ := h
  have hmatch := List.find?_some hsig
  rw [Bool.and_eq_true, beq_iff_eq] at hmatch
  exact hmatch.1

/-- A method of a type is the one that the type has for its operation. -/
theorem mem_find_iff {t : ValueType} {sigs : List Signature} {b : Binding} :
    b ∈ find t sigs ↔ b.operation ∈ methodOperations ∧ find? t sigs b.operation = some b := by
  unfold find
  rw [List.mem_filterMap]
  constructor
  · intro h
    obtain ⟨name, hname, hb⟩ := h
    rw [operation_of_find?_eq_some hb]
    exact ⟨hname, hb⟩
  · intro h
    exact ⟨b.operation, h⟩

/-- The methods of a type, read off the operations: one for each name for which some operation
applies to the type, in the order of the names. The first such operation tells whether the method
takes no further operand and whether it returns a truth value. -/
theorem find_of_expandAll {ops : List Operation} {sigs : List Signature}
    (h : expandAll ops = .ok sigs) (t : ValueType) :
    (find t sigs).map operation =
        methodOperations.filter (fun name => ∃ op ∈ ops, op.name = name ∧ op.AppliesTo t) ∧
      ((find t sigs).map operation).Nodup ∧
      (∀ b ∈ find t sigs, ∃ op result,
        ops.find? (fun op => op.name = b.operation ∧ op.AppliesTo t) = some op ∧
          op.result.resolve op.name (List.replicate op.arity t) = .ok result ∧
          b = ⟨op.name, op.arity == 1, result == .ebool && !isBitwise op.name⟩) ∧
      find t sigs = methodOperations.filterMap fun name =>
        (sigs.find? fun sig => sig.name == name && sig.isHomogeneous t).map ofSignature := by
  have hnames : (find t sigs).map operation =
      methodOperations.filter fun name => ∃ op ∈ ops, op.name = name ∧ op.AppliesTo t := by
    unfold find
    rw [List.map_filterMap, ← List.filterMap_eq_filter]
    congr 1
    -- It remains to see for which names there is a method, since a method is called as its name.
    funext name
    rw [Option.guard]
    cases hfind : find? t sigs name with
    | none =>
      have hnone : ¬∃ op ∈ ops, op.name = name ∧ op.AppliesTo t := by
        rw [← isSome_find?_iff h, hfind]
        exact Bool.false_ne_true
      rw [decide_eq_false hnone]
      rfl
    | some b =>
      have hsome : ∃ op ∈ ops, op.name = name ∧ op.AppliesTo t := by
        rw [← isSome_find?_iff h, hfind]
        rfl
      rw [decide_eq_true hsome]
      exact congrArg some (operation_of_find?_eq_some hfind)
  refine ⟨hnames, ?_, ?_, ?_⟩
  · rw [hnames]
    have hnodup : methodOperations.Nodup := by decide
    exact hnodup.filter _
  · intro b hb
    obtain ⟨op, sig, hop, hsig, hmethod⟩ := (find?_eq_some_iff h).1 (mem_find_iff.1 hb).2
    obtain ⟨hinputs, hname, hresult⟩ := Operation.homogeneous?_eq_some_iff.1 hsig
    have harity : sig.arity = op.arity := by
      rw [Signature.arity, hinputs, List.length_replicate]
    rw [hinputs] at hresult
    refine ⟨op, sig.result, hop, hresult, ?_⟩
    rw [hmethod, ofSignature, hname, harity]
  · unfold find
    congr 1
    funext name
    exact find?_eq_map t sigs name

/-- The conjunction of encrypted numbers does not apply to truth values, so that their method comes
from the next operation of the name, which takes a single operand. -/
theorem find_of_two_conjunctions :
    ∃ sigs, expandAll [⟨"and", [.anyEncrypted, .anyEncrypted], .promoted, false, false⟩,
        ⟨"and", [.exactly .ebool], .promoted, true, false⟩] = .ok sigs ∧
      find .ebool sigs = [⟨"and", true, false⟩] := by
  obtain ⟨sigs, hsigs⟩ : ∃ sigs, expandAll [⟨"and", [.anyEncrypted, .anyEncrypted], .promoted,
      false, false⟩, ⟨"and", [.exactly .ebool], .promoted, true, false⟩] = .ok sigs := ⟨_, rfl⟩
  obtain ⟨hnames, -, hmethods, -⟩ := find_of_expandAll hsigs .ebool
  have hand : (find .ebool sigs).map operation = ["and"] := hnames.trans (by decide +kernel)
  obtain ⟨b, hb, hoperation⟩ := List.map_eq_singleton_iff.1 hand
  obtain ⟨op, result, hop, hresult, hmethod⟩ := hmethods b (by rw [hb]; exact List.mem_cons_self)
  rw [hoperation] at hop
  have hsecond : op = ⟨"and", [.exactly .ebool], .promoted, true, false⟩ :=
    (Option.some.inj (hop.symm.trans (by decide +kernel)))
  subst hsecond
  refine ⟨sigs, hsigs, ?_⟩
  rw [hb, hmethod, show result = .ebool from (Except.ok.inj hresult).symm]
  decide

/-! ## Types of methods -/

/-- The body of a method passes its operands on to the library in their order. -/
theorem wrapperBody_eq (b : Binding) (t : ValueType) :
    wrapperBody b.operation b.unary = Code.line ("return FHE." ++ b.operation ++ "(" ++
      ", ".intercalate ((b.head t).parameters.map Prod.snd) ++ ");") := by
  unfold wrapperBody operandNames head
  cases b.unary with
  | true => rfl
  | false => rfl

/-- A method for an overload on one or two operands of a type takes these operands. -/
theorem inputs_head_ofSignature {sig : Signature} {t : ValueType}
    (harity : sig.arity = 1 ∨ sig.arity = 2) (hinputs : sig.inputs = List.replicate sig.arity t) :
    ((ofSignature sig).head t).inputs = sig.inputs := by
  unfold Head.inputs head ofSignature
  rcases harity with harity | harity
  · rw [hinputs, harity]
    rfl
  · rw [hinputs, harity]
    rfl

/-- A method for an overload whose result is promoted from operands of one type, or is a truth value
and not of a bitwise operation, returns that result. -/
theorem result_head_ofSignature {op : Operation} {sig : Signature} {t : ValueType}
    (hsig : op.homogeneous? t = some sig) (ht : t.encrypted = true) (harity : op.arity ≠ 0)
    (hrule : op.result = .promoted ∨ op.result = .exactly .ebool ∧ isBitwise op.name = false) :
    ((ofSignature sig).head t).result = sig.result := by
  obtain ⟨hinputs, hname, hresult⟩ := Operation.homogeneous?_eq_some_iff.1 hsig
  show operandResult t (sig.result == .ebool && !isBitwise sig.name) = sig.result
  unfold operandResult
  rcases hrule with hrule | ⟨hrule, hbitwise⟩
  · -- Whether or not the flag says so, a result that is a truth value is one of the operands' type.
    have hresult : sig.result = t := by
      rw [hrule, hinputs] at hresult
      rw [← Except.ok.inj hresult]
      exact promote_replicate ht harity
    rw [hresult, ite_eq_right_iff, Bool.and_eq_true, beq_iff_eq]
    intro hflag
    exact hflag.1.symm
  · have hresult : sig.result = .ebool := by
      rw [hrule] at hresult
      exact (Except.ok.inj hresult).symm
    rw [hresult, hname, hbitwise]
    rfl

/-- A method of an encrypted type is well typed if every operation that may become one has one or
two parameters and promotes its operands or, unless it is bitwise, returns a truth value: the
library has an overload of the operation for the operands that the head of the method declares and
with the result that it declares. -/
theorem exists_signature_of_mem_find {ops : List Operation} {sigs : List Signature}
    (h : expandAll ops = .ok sigs)
    (hmethods : ∀ op ∈ ops, op.name ∈ methodOperations → (op.arity = 1 ∨ op.arity = 2) ∧
      (op.result = .promoted ∨ op.result = .exactly .ebool ∧ isBitwise op.name = false))
    {t : ValueType} (ht : t.encrypted = true) {b : Binding} (hb : b ∈ find t sigs) :
    ∃ sig ∈ sigs, sig.name = b.operation ∧
      sig.inputs = (if b.unary then [t] else [t, t]) ∧
      sig.result = (if b.returnsBool then .ebool else t) ∧
      (b.head t).inputs = sig.inputs ∧ (b.head t).result = sig.result ∧
      b.header t = (b.head t).text ∧
      wrapperBody b.operation b.unary = Code.line ("return FHE." ++ sig.name ++ "(" ++
        ", ".intercalate ((b.head t).parameters.map Prod.snd) ++ ");") := by
  obtain ⟨hname, hfind⟩ := mem_find_iff.1 hb
  obtain ⟨op, sig, hop, hsig, hmethod⟩ := (find?_eq_some_iff h).1 hfind
  obtain ⟨hmem, hoperation, happlies⟩ := Operation.of_find?_appliesTo hop
  rw [← hoperation] at hname
  obtain ⟨harity, hrule⟩ := hmethods op hmem hname
  -- The overload that the method is made from is in the library, since its operation is expanded.
  obtain ⟨family, hfamily, hsubset⟩ := exists_expand_of_mem h hmem
  obtain ⟨sig', hsig', hsome⟩ := Operation.exists_homogeneous?_eq_some hfamily happlies
  rw [hsig, Option.some.injEq] at hsome
  subst hsome
  obtain ⟨hreplicate, hsigName, -⟩ := Operation.homogeneous?_eq_some_iff.1 hsig
  have hsigArity : sig.arity = op.arity := by
    rw [Signature.arity, hreplicate, List.length_replicate]
  have hinputs : (b.head t).inputs = sig.inputs := by
    rw [hmethod]
    refine inputs_head_ofSignature (by rw [hsigArity]; exact harity) ?_
    rw [hsigArity]
    exact hreplicate
  have hresult : (b.head t).result = sig.result := by
    rw [hmethod]
    exact result_head_ofSignature hsig ht (by omega) hrule
  refine ⟨sig, hsubset sig hsig', ?_, ?_, ?_, hinputs, hresult, (text_head b ht).symm, ?_⟩
  · rw [hsigName, hoperation]
  · rw [← hinputs, Head.inputs, head]
    cases b.unary with
    | true => rfl
    | false => rfl
  · rw [← hresult]
    rfl
  · rw [wrapperBody_eq b t, hsigName, hoperation]

/-- The comparison of encrypted numbers and the negation of encrypted truth values are called with
the types that their methods declare. A choice, which has three parameters, is no method. -/
theorem exists_signature_of_comparison_and_negation :
    ∃ sigs, expandAll [⟨"select", [.exactly .ebool, .anyEncrypted, .anyEncrypted], .promoted, false,
        false⟩, ⟨"lt", [.exactly ⟨true, .uint8⟩, .exactly ⟨true, .uint8⟩], .exactly .ebool, false,
        false⟩, ⟨"not", [.exactly .ebool], .promoted, true, false⟩] = .ok sigs ∧
      (⟨"lt", false, true⟩ : Binding) ∈ find ⟨true, .uint8⟩ sigs ∧
      (⟨"not", true, false⟩ : Binding) ∈ find .ebool sigs ∧
      (∃ sig ∈ sigs, sig.name = "lt" ∧ sig.inputs = [⟨true, .uint8⟩, ⟨true, .uint8⟩] ∧
        sig.result = .ebool) ∧
      ∃ sig ∈ sigs, sig.name = "not" ∧ sig.inputs = [.ebool] ∧ sig.result = .ebool := by
  obtain ⟨sigs, hsigs, hlt, hnot⟩ : ∃ sigs, expandAll [⟨"select", [.exactly .ebool, .anyEncrypted,
      .anyEncrypted], .promoted, false, false⟩, ⟨"lt", [.exactly ⟨true, .uint8⟩,
      .exactly ⟨true, .uint8⟩], .exactly .ebool, false, false⟩,
      ⟨"not", [.exactly .ebool], .promoted, true, false⟩] = .ok sigs ∧
      (⟨"lt", false, true⟩ : Binding) ∈ find ⟨true, .uint8⟩ sigs ∧
      (⟨"not", true, false⟩ : Binding) ∈ find .ebool sigs :=
    ⟨_, rfl, by decide +kernel, by decide +kernel⟩
  obtain ⟨less, hless, hlessName, hlessInputs, hlessResult, -⟩ :=
    exists_signature_of_mem_find hsigs (by decide) rfl hlt
  obtain ⟨negation, hnegation, hnegationName, hnegationInputs, hnegationResult, -⟩ :=
    exists_signature_of_mem_find hsigs (by decide) rfl hnot
  exact ⟨sigs, hsigs, hlt, hnot, ⟨less, hless, hlessName, hlessInputs, hlessResult⟩,
    negation, hnegation, hnegationName, hnegationInputs, hnegationResult⟩

end Binding

end FheSolidity
