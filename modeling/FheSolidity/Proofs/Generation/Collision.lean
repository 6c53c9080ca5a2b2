import FheSolidity.Proofs.Generation.Declared
import FheSolidity.Proofs.Solidity.Scope

/-!
# Functions that clash

Solidity tells the functions of one name apart by the types of their parameters. Generation compares
the keys of test contracts and nothing else, so two operations of one name are refused if both are
tested, but what an untested operation declares may clash with anything. `Clash` says when it does,
and `clash_iff` says that the functions of the library `FHE` clash in no other way.
-/

namespace FheSolidity

open Text

/-! ## The keys of the functions of an operation -/

namespace Operation

/-- Whether an operation has a test contract. -/
def isTested (op : Operation) : Bool :=
  op.name != "decrypt" && op.testTemplate?.isSome

/-- The keys of the functions that an operation gives rise to. -/
def functionKeys (op : Operation) : List (String × List ValueType) :=
  (combinations op.candidates).map fun inputs => (op.name, inputs)

/-- The functions of an operation have its name and the inputs that it takes. -/
theorem mem_functionKeys_iff {op : Operation} {name : String} {inputs : List ValueType} :
    (name, inputs) ∈ op.functionKeys ↔ op.name = name ∧ op.Takes inputs := by
  unfold functionKeys
  rw [List.mem_map]
  constructor
  · intro h
    obtain ⟨inputs', hinputs, hkey⟩ := h
    obtain ⟨hname, rfl⟩ := Prod.mk.inj hkey
    exact ⟨hname, mem_combinations_candidates_iff.1 hinputs⟩
  · intro h
    obtain ⟨rfl, htakes⟩ := h
    exact ⟨inputs, mem_combinations_candidates_iff.2 htakes, rfl⟩

/-- No two functions of one operation have the same key. -/
theorem nodup_functionKeys (op : Operation) : op.functionKeys.Nodup := by
  have hcombinations : (combinations op.candidates).Nodup :=
    nodup_combinations (nodup_of_mem_candidatesIn (by decide) (by decide))
  exact hcombinations.map fun inputs inputs' h => (Prod.mk.inj h).2

/-- Functions of two operations have the same key exactly if the operations have the same name and
take inputs in common. -/
theorem disjoint_functionKeys_iff {first second : Operation} :
    first.functionKeys.Disjoint second.functionKeys ↔
      ¬(first.name = second.name ∧ ∃ inputs, first.Takes inputs ∧ second.Takes inputs) := by
  constructor
  · intro h hclash
    obtain ⟨hname, inputs, hfirst, hsecond⟩ := hclash
    exact h (mem_functionKeys_iff.2 ⟨hname, hfirst⟩) (mem_functionKeys_iff.2 ⟨rfl, hsecond⟩)
  · intro h key hfirst hsecond
    obtain ⟨name, inputs⟩ := key
    obtain ⟨hfirstName, hfirst⟩ := mem_functionKeys_iff.1 hfirst
    obtain ⟨hsecondName, hsecond⟩ := mem_functionKeys_iff.1 hsecond
    exact h ⟨hfirstName.trans hsecondName.symm, inputs, hfirst, hsecond⟩

end Operation

/-- The functions of several operations have the keys of each, in the order of the operations. -/
theorem map_key_head_of_expandAll {ops : List Operation} {sigs : List Signature}
    (h : expandAll ops = .ok sigs) :
    (sigs.map Signature.head).map Head.key = ops.flatMap Operation.functionKeys := by
  have hkey : ∀ sigs : List Signature, (sigs.map Signature.head).map Head.key =
      sigs.map fun sig => (sig.name, sig.inputs) := by
    intro sigs
    rw [List.map_map]
    exact List.map_congr_left fun sig _ => congrArg (Prod.mk sig.name) sig.inputs_head
  obtain ⟨families, hfamilies, rfl⟩ := expandAll_eq_ok_iff.1 h
  clear h
  rw [hkey]
  -- Every family has the keys of its operation.
  induction hfamilies with
  | nil => rfl
  | @cons op family ops families hop _ ih =>
    have hfamily : family.map (fun sig => (sig.name, sig.inputs)) = op.functionKeys := by
      unfold Operation.functionKeys Operation.candidates
      rw [← (Operation.expandIn_eq_ok_iff.1 hop).1, List.map_map]
      apply List.map_congr_left
      intro sig hsig
      exact congrArg (fun name => (name, sig.inputs)) (Operation.mem_expandIn hop sig hsig).1
    rw [List.flatten_cons, List.map_append, ih, hfamily, List.flatMap_cons]

/-! ## The keys of the functions of the library -/

/-- The keys of the conversion functions. -/
theorem map_key_head_casts :
    (Cast.all.map Cast.head).map Head.key =
      Cast.all.map fun c => (c.target.castName, [c.source]) := by
  rw [List.map_map]
  rfl

/-- No two conversion functions have the same key. -/
theorem nodup_castKeys : (Cast.all.map fun c => (c.target.castName, [c.source])).Nodup := by
  have hnames : (ValueType.encryptedTypes.map ValueType.castName).Nodup := by decide +kernel
  have hall : Cast.all.Nodup := by decide +kernel
  apply hall.map_on
  rintro ⟨source, target⟩ hc ⟨source', target'⟩ hd hkey
  obtain ⟨hname, hsource⟩ := Prod.mk.inj hkey
  have htarget : target = target' :=
    List.inj_on_of_nodup_map hnames (Cast.target_mem_of_mem_all _ hc)
      (Cast.target_mem_of_mem_all _ hd) hname
  rw [htarget, show source = source' from (List.cons.inj hsource).1]

/-- The functions of some operations have none of given keys exactly if no operation takes the
inputs of a key with its name. -/
theorem disjoint_flatMap_functionKeys_iff {ops : List Operation}
    {keys : List (String × List ValueType)} :
    (ops.flatMap Operation.functionKeys).Disjoint keys ↔
      ∀ op ∈ ops, ∀ key ∈ keys, op.name = key.1 → ¬op.Takes key.2 := by
  constructor
  · intro h op hop key hkey hname htakes
    exact h (List.mem_flatMap.2 ⟨op, hop, Operation.mem_functionKeys_iff.2 ⟨hname, htakes⟩⟩) hkey
  · intro h key hmem hkey
    obtain ⟨op, hop, hmem⟩ := List.mem_flatMap.1 hmem
    obtain ⟨hname, htakes⟩ := Operation.mem_functionKeys_iff.1 hmem
    exact h op hop key hkey hname htakes

/-- The functions of the library `FHE` have different keys unless two operations of one name take
inputs in common, or an operation is named for a helper or a conversion and takes its input. -/
theorem nodup_map_key_libraryHeads_iff {ops : List Operation} {sigs : List Signature}
    (h : expandAll ops = .ok sigs) :
    ((libraryHeads sigs).map Head.key).Nodup ↔
      ops.Pairwise (fun first second =>
          ¬(first.name = second.name ∧ ∃ inputs, first.Takes inputs ∧ second.Takes inputs)) ∧
        (∀ op ∈ ops, ∀ t ∈ ValueType.encryptedTypes, op.name = "isInitialized" → ¬op.Takes [t]) ∧
        ∀ op ∈ ops, ∀ c ∈ Cast.all, op.name = c.target.castName → ¬op.Takes [c.source] := by
  have hhelpers : (ValueType.encryptedTypes.map Preamble.isInitializedHead).map Head.key =
      ValueType.encryptedTypes.map fun t => ("isInitialized", [t]) := by
    rw [List.map_map]
    rfl
  have hnodupHelpers : (ValueType.encryptedTypes.map fun t => ("isInitialized", [t])).Nodup := by
    decide +kernel
  -- The names alone keep the helpers and the conversions apart.
  have hcasts : (ValueType.encryptedTypes.map fun t => ("isInitialized", [t])).Disjoint
      (Cast.all.map fun c => (c.target.castName, [c.source])) := by
    have hnames : ∀ t ∈ ValueType.encryptedTypes, t.castName ≠ "isInitialized" := by decide +kernel
    intro key hhelper hcast
    obtain ⟨t, -, rfl⟩ := List.mem_map.1 hhelper
    obtain ⟨c, hc, hkey⟩ := List.mem_map.1 hcast
    exact hnames _ (Cast.target_mem_of_mem_all c hc) (Prod.mk.inj hkey).1
  have hsigs : (ops.flatMap Operation.functionKeys).Nodup ↔ ops.Pairwise fun first second =>
      ¬(first.name = second.name ∧ ∃ inputs, first.Takes inputs ∧ second.Takes inputs) := by
    rw [List.nodup_flatMap, and_iff_right fun op _ => op.nodup_functionKeys]
    exact List.Pairwise.iff fun _ _ => Operation.disjoint_functionKeys_iff
  unfold libraryHeads
  rw [List.map_append, List.map_append, hhelpers, map_key_head_of_expandAll h, map_key_head_casts,
    List.nodup_append', List.nodup_append', List.disjoint_append_left, hsigs,
    List.disjoint_comm, disjoint_flatMap_functionKeys_iff, disjoint_flatMap_functionKeys_iff,
    and_iff_right hnodupHelpers, and_iff_right nodup_castKeys, and_iff_right hcasts]
  simp only [List.forall_mem_map, and_assoc]

/-! ## Clashes -/

/-- Some functions that operations give rise to clash with each other, or with what the library
`FHE` declares besides. -/
inductive Clash (ops : List Operation) : Prop
  /-- Two operations of one name, of which one at least is not tested, take inputs in common. -/
  | operations {first second : Operation} {inputs : List ValueType}
    (pair : [first, second].Sublist ops)
    (untested : ¬(first.isTested = true ∧ second.isTested = true))
    (name : first.name = second.name) (takes : first.Takes inputs ∧ second.Takes inputs)
  /-- An operation is named as the helpers that tell whether a value is initialized, and takes the
  input of one of them. -/
  | helper {op : Operation} {t : ValueType} (mem : op ∈ ops) (name : op.name = "isInitialized")
    (type : t ∈ ValueType.encryptedTypes) (takes : op.Takes [t])
  /-- An operation that is not tested is named as a conversion and takes its input. -/
  | conversion {op : Operation} {c : Cast} (mem : op ∈ ops) (untested : op.isTested = false)
    (name : op.name = c.target.castName) (cast : c ∈ Cast.all) (takes : op.Takes [c.source])

/-- Two operations that are tested have different names if no two test contracts have the same
key. -/
theorem name_ne_of_isTested {ops : List Operation} (h : (testKeys ops).Nodup)
    {first second : Operation} (hpair : [first, second].Sublist ops)
    (hfirst : first.isTested = true) (hsecond : second.isTested = true) :
    first.name ≠ second.name := by
  have hsub : [first, second].Sublist (ops.filter Operation.isTested) := by
    have hfilter := hpair.filter Operation.isTested
    rwa [List.filter_cons_of_pos hfirst, List.filter_cons_of_pos hsecond,
      List.filter_nil] at hfilter
  have hkeys : ((ops.filter Operation.isTested).map fun op => Text.capitalize op.name).Nodup :=
    (List.nodup_append.1 h).1
  have hpairKeys : [Text.capitalize first.name, Text.capitalize second.name].Nodup :=
    hkeys.sublist (hsub.map fun op : Operation => Text.capitalize op.name)
  intro hname
  rw [hname] at hpairKeys
  exact (List.nodup_cons.1 hpairKeys).1 List.mem_cons_self

/-- An operation that is tested is not named as a conversion if no two test contracts have the same
key. -/
theorem name_ne_castName_of_isTested {ops : List Operation} (h : (testKeys ops).Nodup)
    {op : Operation} (hop : op ∈ ops) (htested : op.isTested = true) {c : Cast}
    (hc : c ∈ Cast.all) : op.name ≠ c.target.castName := by
  have hcast : ∀ t ∈ ValueType.encryptedTypes, Text.capitalize t.castName ∈ ["AsEbool", "AsEuint8",
      "AsEuint16", "AsEuint32", "AsEuint64", "AsEuint128", "AsEuint256", "AsEbytes"] := by
    decide +kernel
  have hkey : Text.capitalize op.name ∈
      (ops.filter Operation.isTested).map fun op => Text.capitalize op.name :=
    List.mem_map.2 ⟨op, List.mem_filter.2 ⟨hop, htested⟩, rfl⟩
  intro hname
  refine (List.nodup_append.1 h).2.2 _ hkey _ (hcast _ (Cast.target_mem_of_mem_all c hc)) ?_
  rw [hname]

/-- No two functions of the library `FHE` have the same key unless there is a clash. -/
theorem clash_iff {ops : List Operation} {sigs : List Signature} (h : expandAll ops = .ok sigs)
    (hkeys : (testKeys ops).Nodup) :
    Clash ops ↔ ¬((libraryHeads sigs).map Head.key).Nodup := by
  rw [nodup_map_key_libraryHeads_iff h]
  constructor
  · intro hclash hnodup
    obtain ⟨hoperations, hhelpers, hconversions⟩ := hnodup
    cases hclash with
    | operations pair untested name takes =>
      exact List.pairwise_iff_forall_sublist.1 hoperations pair ⟨name, _, takes⟩
    | helper mem name type takes => exact hhelpers _ mem _ type name takes
    | conversion mem untested name cast takes => exact hconversions _ mem _ cast name takes
  · intro hrepeat
    -- Without a clash, whatever has the same key is refused by the check of the test contracts.
    by_contra hclash
    refine hrepeat ⟨List.pairwise_iff_forall_sublist.2 ?_, ?_, ?_⟩
    · intro first second hpair hshared
      obtain ⟨hname, inputs, htakes⟩ := hshared
      refine hclash (.operations hpair ?_ hname htakes)
      intro htested
      exact name_ne_of_isTested hkeys hpair htested.1 htested.2 hname
    · intro op hop t ht hname htakes
      exact hclash (.helper hop hname ht htakes)
    · intro op hop c hc hname htakes
      refine hclash (.conversion hop (Bool.eq_false_of_not_eq_true ?_) hname hc htakes)
      intro htested
      exact name_ne_castName_of_isTested hkeys hop htested hc hname

/-- Operations that are all tested and not named for a helper do not clash. -/
theorem not_clash_of_forall_isTested {ops : List Operation}
    (htested : ∀ op ∈ ops, op.isTested = true) (hname : ∀ op ∈ ops, op.name ≠ "isInitialized") :
    ¬Clash ops := by
  intro h
  cases h with
  | operations pair untested name takes =>
    exact untested ⟨htested _ (pair.subset List.mem_cons_self),
      htested _ (pair.subset (List.mem_cons_of_mem _ List.mem_cons_self))⟩
  | helper mem name type takes => exact hname _ mem name
  | conversion mem untested name cast takes => exact absurd (htested _ mem) (by simp [untested])

/-- What the library `FHE` of a generated library declares. Its functions are found by their heads
among its lines, if no name has a line break; and no two of them have the same name and the same
types of parameters unless an operation clashes with another one, with a helper or with a
conversion. Operations that are all tested clash with a helper at most. -/
theorem generated_functions_nodup_iff {ops : List Operation} {a : Artifacts}
    (h : (generate ops).outcome = .ok a) :
    ∃ sigs, expandAll ops = .ok sigs ∧ libraryText sigs = .ok a.library ∧
      (((libraryHeads sigs).map Head.key).Nodup ↔ ¬Clash ops) ∧
      ((∀ op ∈ ops, op.isTested = true) → (∀ op ∈ ops, op.name ≠ "isInitialized") →
        ((libraryHeads sigs).map Head.key).Nodup) ∧
      ((∀ op ∈ ops, Unbroken op.name) → ∃ scope, (∀ list, IsScope a.library list ↔ list = scope) ∧
        scope.filter Signature.isHead = (libraryHeads sigs).map Head.line) := by
  obtain ⟨sigs, library, hsigs, hlibrary, -, rfl⟩ := outcome_generate_eq_ok_iff.1 h
  obtain ⟨-, -, hkeys⟩ := exists_outcome_generate_iff.1 ⟨_, h⟩
  have hnodup : ((libraryHeads sigs).map Head.key).Nodup ↔ ¬Clash ops := by
    rw [clash_iff hsigs hkeys, not_not]
  refine ⟨sigs, hsigs, hlibrary, hnodup, ?_, ?_⟩
  · intro htested hname
    exact hnodup.2 (not_clash_of_forall_isTested htested hname)
  · intro hnames
    obtain ⟨scope, hscope, hheads⟩ := exists_isScope_libraryText hlibrary
      (unbroken_name_of_mem_expandAll hnames hsigs)
    refine ⟨scope, fun list => ⟨fun hlist => hlist.unique hscope, ?_⟩, hheads⟩
    rintro rfl
    exact hscope

/-- Decryption may be described by two operations as long as they take different inputs. -/
theorem generated_functions_of_two_decryptions :
    ∃ a, (generate [⟨"decrypt", [.exactly .ebool], .extracted, false, false⟩,
        ⟨"decrypt", [.exactly .ebytes], .extracted, false, false⟩]).outcome = .ok a ∧
      ¬Clash [⟨"decrypt", [.exactly .ebool], .extracted, false, false⟩,
        ⟨"decrypt", [.exactly .ebytes], .extracted, false, false⟩] ∧
      ∃ scope, IsScope a.library scope ∧
        "    function decrypt(ebool input0) internal pure returns (bool) \x7b".toList ∈ scope := by
  obtain ⟨a, ha⟩ : ∃ a, (generate [⟨"decrypt", [.exactly .ebool], .extracted, false, false⟩,
      ⟨"decrypt", [.exactly .ebytes], .extracted, false, false⟩]).outcome = .ok a :=
    exists_outcome_generate_iff.2 ⟨by decide, by decide, by decide +kernel⟩
  obtain ⟨sigs, hsigs, -, hclash, -, hscope⟩ := generated_functions_nodup_iff ha
  obtain ⟨scope, hscope, hheads⟩ := hscope (by decide)
  have hdecrypt : ∀ op ∈ [(⟨"decrypt", [.exactly .ebool], .extracted, false, false⟩ : Operation),
      ⟨"decrypt", [.exactly .ebytes], .extracted, false, false⟩], op.name = "decrypt" := by decide
  -- The two operations take nothing in common, and their name is not that of another function.
  refine ⟨a, ha, hclash.1 ((nodup_map_key_libraryHeads_iff hsigs).2 ⟨?_, ?_, ?_⟩), scope,
    (hscope scope).2 rfl, ?_⟩
  · rw [List.pairwise_pair]
    intro h
    obtain ⟨-, inputs, hbool, hbytes⟩ := h
    have hboolInputs : inputs ∈ [[ValueType.ebool]] :=
      Operation.mem_combinations_candidates_iff.2 hbool
    have hbytesInputs : inputs ∈ [[ValueType.ebytes]] :=
      Operation.mem_combinations_candidates_iff.2 hbytes
    rw [List.mem_singleton.1 hboolInputs] at hbytesInputs
    exact absurd hbytesInputs (by decide)
  · intro op hop t _ hname
    exact absurd ((hdecrypt op hop).symm.trans hname) (by decide)
  · intro op hop c hc hname
    have hcast : ∀ t ∈ ValueType.encryptedTypes, "decrypt" ≠ t.castName := by decide +kernel
    exact absurd ((hdecrypt op hop).symm.trans hname) (hcast _ (Cast.target_mem_of_mem_all c hc))
  · have hmem : "    function decrypt(ebool input0) internal pure returns (bool) \x7b".toList ∈
        scope.filter Signature.isHead := by
      rw [hheads, ← Except.ok.inj hsigs]
      refine List.mem_map.2 ⟨_, (sublist_libraryHeads _).subset List.mem_cons_self, ?_⟩
      decide +kernel
    exact (List.mem_filter.1 hmem).1

/-- Decryption that is described twice for the same inputs is declared twice. -/
theorem repeated_decryption_declared_twice :
    ∃ a sigs scope, (generate [⟨"decrypt", [.exactly .ebool], .extracted, false, false⟩,
        ⟨"decrypt", [.exactly .ebool], .extracted, false, false⟩]).outcome = .ok a ∧
      expandAll [⟨"decrypt", [.exactly .ebool], .extracted, false, false⟩,
        ⟨"decrypt", [.exactly .ebool], .extracted, false, false⟩] = .ok sigs ∧
      ¬((libraryHeads sigs).map Head.key).Nodup ∧
      IsScope a.library scope ∧
      List.Sublist ["    function decrypt(ebool input0) internal pure returns (bool) \x7b".toList,
        "    function decrypt(ebool input0) internal pure returns (bool) \x7b".toList] scope := by
  obtain ⟨a, ha⟩ : ∃ a, (generate [⟨"decrypt", [.exactly .ebool], .extracted, false, false⟩,
      ⟨"decrypt", [.exactly .ebool], .extracted, false, false⟩]).outcome = .ok a :=
    exists_outcome_generate_iff.2 ⟨by decide, by decide, by decide +kernel⟩
  obtain ⟨sigs, library, hsigs, hlibrary, -, rfl⟩ := outcome_generate_eq_ok_iff.1 ha
  obtain ⟨scope, hscope, hheads⟩ := exists_isScope_libraryText hlibrary
    (unbroken_name_of_mem_expandAll (by decide) hsigs)
  -- Both operations give rise to the same signature.
  have htwice : sigs = [⟨"decrypt", [.ebool], .bool⟩, ⟨"decrypt", [.ebool], .bool⟩] :=
    (Except.ok.inj hsigs).symm
  have hsub := sublist_libraryHeads sigs
  rw [htwice] at hsub hheads
  refine ⟨_, sigs, scope, ha, hsigs, ?_, hscope, ?_⟩
  · intro hnodup
    rw [htwice] at hnodup
    exact absurd (hnodup.sublist (hsub.map Head.key)) (by decide)
  · have hlinesTwice := hsub.map Head.line
    rw [← hheads] at hlinesTwice
    refine List.Sublist.trans ?_ (hlinesTwice.trans List.filter_sublist)
    have hline : (⟨"decrypt", [.ebool], .bool⟩ : Signature).head.line =
        "    function decrypt(ebool input0) internal pure returns (bool) \x7b".toList := by
      decide +kernel
    rw [List.map_cons, List.map_singleton, List.map_cons, List.map_singleton, hline]

end FheSolidity
