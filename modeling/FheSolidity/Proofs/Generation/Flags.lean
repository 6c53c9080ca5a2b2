import FheSolidity.Listing
import FheSolidity.Proofs.Expansion.Overloads
import FheSolidity.Proofs.Generation.Stages

/-!
# The scope of flags

An operation carries two flags. Nothing is generated from the wish for inputs of one type, and that
an operation makes sense on truth values and byte strings is looked at in two places: for the
candidates of encrypted parameters if there are two parameters, and in the tests of operations on
two encrypted operands. So operations that agree where this flag is in scope contribute the same
(`AgreesInScope.contribution`), and with them whole lists of operations generate the same, record
the same and are listed alike.
-/

namespace FheSolidity

namespace Operation

/-- Two operations that differ in their flags at most, and agree on whether they make sense on truth
values and byte strings if they have two parameters of which one is any encrypted type. -/
structure AgreesInScope (op op' : Operation) : Prop where
  name : op.name = op'.name
  params : op.params = op'.params
  result : op.result = op'.result
  booleanMath : op.arity = 2 → .anyEncrypted ∈ op.params → op.booleanMath = op'.booleanMath

variable {op op' : Operation}

/-! ## Overloads -/

/-- An encrypted parameter excludes the same types in both operations. -/
theorem AgreesInScope.excludesComparisonOnly (h : op.AgreesInScope op')
    (hencrypted : .anyEncrypted ∈ op.params) :
    op.excludesComparisonOnly = op'.excludesComparisonOnly := by
  have harity : op.arity = op'.arity := congrArg List.length h.params
  by_cases htwo : op.arity = 2
  · rw [excludesComparisonOnly_of_arity_eq_two htwo,
      excludesComparisonOnly_of_arity_eq_two (harity ▸ htwo), h.booleanMath htwo hencrypted]
  · rw [excludesComparisonOnly_of_arity_ne_two htwo,
      excludesComparisonOnly_of_arity_ne_two (harity ▸ htwo)]

/-- Both operations have the same candidates. -/
theorem AgreesInScope.candidatesIn (h : op.AgreesInScope op')
    (encrypted plaintext : List ValueType) :
    op.candidatesIn encrypted plaintext = op'.candidatesIn encrypted plaintext := by
  unfold Operation.candidatesIn
  rw [← h.params]
  apply List.map_congr_left
  intro param hparam
  cases param with
  | anyEncrypted => rw [h.excludesComparisonOnly hparam]
  | anyPlaintext => rfl
  | exactly t => rfl

/-- Both operations have the same overloads, or fail alike. -/
theorem AgreesInScope.expandIn (h : op.AgreesInScope op') (encrypted plaintext : List ValueType) :
    op.expandIn encrypted plaintext = op'.expandIn encrypted plaintext := by
  have hoverload : op.overload = op'.overload := by
    funext inputs
    unfold overload
    rw [h.name, h.result]
  unfold Operation.expandIn
  rw [h.candidatesIn, hoverload]

/-- Over all types, too, both operations have the same overloads, or fail alike. -/
theorem AgreesInScope.expand (h : op.AgreesInScope op') : op.expand = op'.expand :=
  h.expandIn _ _

/-- The expansions of both operations record the same, too. -/
theorem AgreesInScope.traceExpand (h : op.AgreesInScope op') :
    op.traceExpand = op'.traceExpand := by
  unfold Operation.traceExpand traceExpandIn expansionEvents
  rw [h.candidatesIn, h.expandIn, h.name]

/-! ## Tests -/

/-- Both operations are tested in the same way. -/
theorem AgreesInScope.testTemplate? (h : op.AgreesInScope op') :
    op.testTemplate? = op'.testTemplate? := by
  unfold Operation.testTemplate? arity allEncrypted
  rw [h.name, h.params, h.result]

/-- An operation that is tested on two operands has two parameters, and both are any encrypted
type. -/
theorem params_of_testTemplate? {template : TestTemplate}
    (h : op.testTemplate? = some template)
    (hpair : template = .comparison ∨ ∃ symbol, template = .binary symbol) :
    op.arity = 2 ∧ .anyEncrypted ∈ op.params := by
  have htemplate : op.arity = 2 ∧ op.allEncrypted = true := by
    unfold Operation.testTemplate? at h
    split at h
    · rw [← Option.some.inj h] at hpair
      exact absurd hpair (by simp)
    · split at h
      · rw [← Option.some.inj h] at hpair
        exact absurd hpair (by simp)
      · split at h
        · rw [Option.ite_none_right_eq_some] at h
          rw [← Option.some.inj h.2] at hpair
          exact absurd hpair (by simp)
        · next harity =>
          rw [Option.ite_none_right_eq_some] at h
          exact ⟨harity, h.1⟩
        · rw [← Option.some.inj h] at hpair
          exact absurd hpair (by simp)
        · exact nomatch h
  obtain ⟨htwo, hall⟩ := htemplate
  refine ⟨htwo, ?_⟩
  obtain ⟨param, hparam⟩ : ∃ param, param ∈ op.params := by
    apply List.exists_mem_of_length_pos
    rw [show op.params.length = 2 from htwo]
    exact Nat.two_pos
  have hencrypted := List.all_eq_true.1 hall param hparam
  rw [← beq_iff_eq.1 hencrypted]
  exact hparam

/-- Both operations have the same test contract. -/
theorem AgreesInScope.testContract? (h : op.AgreesInScope op') :
    op.testContract? = op'.testContract? := by
  unfold Operation.testContract?
  rw [← h.testTemplate?]
  apply Option.map_congr
  intro template htemplate
  -- Only the tests on two operands look at the flag, and there it is in scope.
  have hflag := fun hpair =>
    have hparams := params_of_testTemplate? htemplate hpair
    h.booleanMath hparams.1 hparams.2
  cases template with
  | req => rfl
  | reencrypt => rfl
  | comparison =>
    unfold TestTemplate.contract
    rw [h.name, hflag (.inl rfl)]
  | binary symbol =>
    unfold TestTemplate.contract
    rw [h.name, hflag (.inr ⟨symbol, rfl⟩)]
  | unary =>
    unfold TestTemplate.contract
    rw [h.name]
  | ternary =>
    unfold TestTemplate.contract
    rw [h.name]

/-- Both operations contribute the same and record the same. -/
theorem AgreesInScope.contribution (h : op.AgreesInScope op') :
    op.contribution = op'.contribution := by
  unfold Operation.contribution traceTest testEvents
  rw [h.traceExpand, h.testContract?, h.name, h.params]

end Operation

/-- Operations that agree on their flags where these are in scope generate the same artifacts or
fail alike, with the same record, and are listed alike in every format. -/
theorem generate_of_agreesInScope {ops ops' : List Operation}
    (h : List.Forall₂ Operation.AgreesInScope ops ops') :
    generate ops = generate ops' ∧
      ∀ format, listOperations format ops = listOperations format ops' := by
  constructor
  · unfold generate
    rw [mapM_eq_mapM_of_forall₂ (h.imp fun _ _ hop => hop.contribution)]
  · intro format
    unfold listOperations expandAll
    rw [mapM_eq_mapM_of_forall₂ (h.imp fun _ _ hop => hop.expand)]

/-- The flags of a negation and of a shift by a plaintext type, whose parameters are both fixed, may
be anything, and an addition may drop its wish for inputs of one type. -/
theorem generate_of_flags_out_of_scope :
    List.Forall₂ Operation.AgreesInScope
      [⟨"add", [.anyEncrypted, .anyEncrypted], .promoted, false, true⟩,
        ⟨"not", [.anyEncrypted], .promoted, true, false⟩,
        ⟨"shl", [.exactly .ebool, .exactly .uint256], .promoted, false, false⟩]
      [⟨"add", [.anyEncrypted, .anyEncrypted], .promoted, false, false⟩,
        ⟨"not", [.anyEncrypted], .promoted, false, true⟩,
        ⟨"shl", [.exactly .ebool, .exactly .uint256], .promoted, true, false⟩] ∧
    generate
      [⟨"add", [.anyEncrypted, .anyEncrypted], .promoted, false, true⟩,
        ⟨"not", [.anyEncrypted], .promoted, true, false⟩,
        ⟨"shl", [.exactly .ebool, .exactly .uint256], .promoted, false, false⟩] =
    generate
      [⟨"add", [.anyEncrypted, .anyEncrypted], .promoted, false, false⟩,
        ⟨"not", [.anyEncrypted], .promoted, false, true⟩,
        ⟨"shl", [.exactly .ebool, .exactly .uint256], .promoted, true, false⟩] := by
  have hagree : List.Forall₂ Operation.AgreesInScope
      [⟨"add", [.anyEncrypted, .anyEncrypted], .promoted, false, true⟩,
        ⟨"not", [.anyEncrypted], .promoted, true, false⟩,
        ⟨"shl", [.exactly .ebool, .exactly .uint256], .promoted, false, false⟩]
      [⟨"add", [.anyEncrypted, .anyEncrypted], .promoted, false, false⟩,
        ⟨"not", [.anyEncrypted], .promoted, false, true⟩,
        ⟨"shl", [.exactly .ebool, .exactly .uint256], .promoted, true, false⟩] := by
    refine .cons ⟨rfl, rfl, rfl, fun _ _ => rfl⟩ (.cons ⟨rfl, rfl, rfl, ?_⟩
      (.cons ⟨rfl, rfl, rfl, ?_⟩ .nil))
    · exact fun harity => absurd harity (by decide)
    · exact fun _ hencrypted => absurd hencrypted (by decide)
  exact ⟨hagree, (generate_of_agreesInScope hagree).1⟩

end FheSolidity
