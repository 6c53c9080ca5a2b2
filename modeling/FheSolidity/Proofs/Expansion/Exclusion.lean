import FheSolidity.Proofs.Expansion.Overloads
import FheSolidity.Proofs.Generation.Flags

/-!
# The exclusion of comparison-only types

An operation on two operands that is not meant for truth values and byte strings loses the
comparison-only types among its encrypted candidates before any combination is made. The overloads
are those that it would have otherwise, less the ones with such a type in an encrypted place, in
the same order (`expandIn_exclusion`).

That a filter may be applied before or after the choices are made holds of any candidates and any
condition on single places (`choices_map_filter`). An empty list of candidates is no exception: it
leaves no choice, just as no choice would pass the filter. And since only extraction fails, the
filter on inputs is one on overloads (`expandIn_eq_ok_filter`).
-/

namespace FheSolidity

/-- Choices from filtered lists are the choices from all elements that pass the filter of every
place. -/
theorem choices_map_filter {α β : Type} (places : List β) (list : β → List α)
    (keeps : β → α → Bool) :
    choices (places.map fun b => (list b).filter (keeps b)) =
      (choices (places.map list)).filter fun row =>
        (places.zip row).all fun (b, a) => keeps b a := by
  induction places with
  | nil => rfl
  | cons b places ih =>
    -- Behind an element that passes, the rows are filtered further; behind another, none is left.
    have hblock : ∀ a, ((choices (places.map list)).map fun tail => a :: tail).filter
          (fun row => ((b :: places).zip row).all fun (b, a) => keeps b a) =
        if keeps b a then (choices (places.map fun b => (list b).filter (keeps b))).map
          fun tail => a :: tail else [] := by
      intro a
      rw [ih, List.filter_map]
      cases h : keeps b a with
      | true => simp [Function.comp_def, h]
      | false => simp [Function.comp_def, h]
    simp only [List.map_cons, choices, List.filter_flatMap, hblock]
    exact flatMap_filter (keeps b) _ (list b)

namespace Operation

/-- Whether no input for a parameter that may be any encrypted type is comparison-only. -/
def sparesComparisonOnly (op : Operation) (inputs : List ValueType) : Bool :=
  (op.params.zip inputs).all fun (param, t) => !param.excludes t

/-- The same operation, meant for truth values and byte strings or not. -/
def withBooleanMath (op : Operation) (booleanMath : Bool) : Operation :=
  { op with booleanMath }

variable {op op' : Operation} {encrypted plaintext : List ValueType}

/-- The combinations for an operation on two operands are those for truth values and byte strings
that spare the comparison-only types. -/
theorem combinations_exclusion (op : Operation) (encrypted plaintext : List ValueType)
    (htwo : op.arity = 2) :
    combinations ((op.withBooleanMath false).candidatesIn encrypted plaintext) =
      (combinations ((op.withBooleanMath true).candidatesIn encrypted plaintext)).filter
        op.sparesComparisonOnly := by
  have hparams : op.params ≠ [] := by
    apply List.ne_nil_of_length_pos
    rw [show op.params.length = 2 from htwo]
    exact Nat.two_pos
  have hne : ∀ b, (op.withBooleanMath b).candidatesIn encrypted plaintext ≠ [] := by
    intro b
    apply candidatesIn_ne_nil
    exact hparams
  -- One of the two excludes what its parameters exclude, the other nothing.
  have hexcludes : ∀ b, (op.withBooleanMath b).excludesComparisonOnly = !b :=
    fun _ => excludesComparisonOnly_of_arity_eq_two htwo
  have hnarrow : (op.withBooleanMath false).candidatesIn encrypted plaintext =
      op.params.map fun param =>
        (param.typesIn encrypted plaintext).filter fun t => !param.excludes t := by
    rw [candidatesIn_eq_map_filter, hexcludes]
    rfl
  have hwide : (op.withBooleanMath true).candidatesIn encrypted plaintext =
      op.params.map fun param => param.typesIn encrypted plaintext := by
    rw [candidatesIn_eq_map_filter, hexcludes]
    simp only [Bool.not_true, Bool.false_and, Bool.not_false, List.filter_true]
    rfl
  rw [combinations_of_ne_nil (hne false), combinations_of_ne_nil (hne true), hnarrow, hwide]
  exact choices_map_filter op.params _ _

/-! ## Overloads -/

/-- Without extraction every expansion succeeds. -/
theorem exists_expandIn_eq_ok (op : Operation) (encrypted plaintext : List ValueType)
    (hrule : op.result ≠ .extracted) : ∃ sigs, op.expandIn encrypted plaintext = .ok sigs := by
  cases h : op.expandIn encrypted plaintext with
  | ok sigs => exact ⟨sigs, rfl⟩
  | error e =>
    obtain ⟨_, _, _, -, -, hrow⟩ := mapM_eq_error_iff.1 h
    exact absurd (overload_eq_error_iff.1 hrow).1 hrule

/-- If the combinations of an operation are those of another with the same name and rule that
pass a filter, then so are the overloads. -/
theorem expandIn_eq_ok_filter {keeps : List ValueType → Bool} {sigs : List Signature}
    (hcombinations : combinations (op'.candidatesIn encrypted plaintext) =
      (combinations (op.candidatesIn encrypted plaintext)).filter keeps)
    (hname : op'.name = op.name) (hrule : op'.result = op.result)
    (h : op.expandIn encrypted plaintext = .ok sigs) :
    op'.expandIn encrypted plaintext = .ok (sigs.filter fun sig => keeps sig.inputs) := by
  obtain ⟨hinputs, hsigs⟩ := expandIn_eq_ok_iff.1 h
  rw [expandIn_eq_ok_iff, hcombinations, ← hinputs, List.filter_map, hname, hrule]
  exact ⟨rfl, fun sig hsig => hsigs sig (List.mem_of_mem_filter hsig)⟩

/-- An operation on two operands that does not extract has overloads whether or not it is meant for
truth values and byte strings. If it is not, they are those that spare the comparison-only types at
the places of any encrypted type, in the same order. With another number of parameters it makes no
difference, whatever the rule. -/
theorem expandIn_exclusion (op : Operation) (encrypted plaintext : List ValueType) :
    (op.arity = 2 → op.result ≠ .extracted →
      ∃ sigs, (op.withBooleanMath true).expandIn encrypted plaintext = .ok sigs ∧
        (op.withBooleanMath false).expandIn encrypted plaintext =
          .ok (sigs.filter fun sig => op.sparesComparisonOnly sig.inputs)) ∧
    (op.arity ≠ 2 → (op.withBooleanMath false).expandIn encrypted plaintext =
      (op.withBooleanMath true).expandIn encrypted plaintext) := by
  constructor
  · intro htwo hrule
    obtain ⟨sigs, hsigs⟩ :=
      exists_expandIn_eq_ok (op.withBooleanMath true) encrypted plaintext hrule
    have hspared := combinations_exclusion op encrypted plaintext htwo
    exact ⟨sigs, hsigs, expandIn_eq_ok_filter hspared rfl rfl hsigs⟩
  · intro harity
    -- The flag is in scope with two parameters only.
    have hagree : (op.withBooleanMath false).AgreesInScope (op.withBooleanMath true) :=
      ⟨rfl, rfl, rfl, fun htwo => absurd htwo harity⟩
    exact hagree.expandIn encrypted plaintext

/-- An operation on a fixed encrypted truth value and an operand of any encrypted type loses its
overload on two truth values, the second of which is excluded, and keeps the other one, since the
first truth value is fixed. A negation loses nothing. -/
theorem expandIn_exclusion_of_fixed_truth_value :
    (∃ sigs,
      (⟨"mask", [.exactly .ebool, .anyEncrypted], .promoted, true, false⟩ : Operation).expandIn
        [.ebool, ⟨true, .uint8⟩] [] = .ok sigs ∧
      sigs.map Signature.inputs = [[.ebool, .ebool], [.ebool, ⟨true, .uint8⟩]] ∧
      (⟨"mask", [.exactly .ebool, .anyEncrypted], .promoted, false, false⟩ : Operation).expandIn
        [.ebool, ⟨true, .uint8⟩] [] =
          .ok [⟨"mask", [.ebool, ⟨true, .uint8⟩], ⟨true, .uint8⟩⟩]) ∧
    (⟨"not", [.anyEncrypted], .promoted, false, false⟩ : Operation).expandIn [.ebool] [] =
      (⟨"not", [.anyEncrypted], .promoted, true, false⟩ : Operation).expandIn [.ebool] [] := by
  constructor
  · obtain ⟨sigs, hsigs, hfiltered⟩ := (expandIn_exclusion
      ⟨"mask", [.exactly .ebool, .anyEncrypted], .promoted, false, false⟩
      [.ebool, ⟨true, .uint8⟩] []).1 rfl (by decide)
    have hall : sigs = [⟨"mask", [.ebool, .ebool], .ebool⟩,
        ⟨"mask", [.ebool, ⟨true, .uint8⟩], ⟨true, .uint8⟩⟩] := (Except.ok.inj hsigs).symm
    rw [hall] at hsigs hfiltered
    exact ⟨_, hsigs, rfl, hfiltered⟩
  · exact (expandIn_exclusion ⟨"not", [.anyEncrypted], .promoted, false, false⟩ [.ebool] []).2
      (by decide)

end Operation

end FheSolidity
