import FheSolidity.Proofs.Metadata.Entry
import FheSolidity.Proofs.ValueType

/-!
# Which entries are refused, and why

Whether a list of entries comes to operations can be read off the entries: the numbers of parameters
have to be right and every word has to be known (`Entry.Valid`). Then each entry gives the operation
that its words spell (`Entry.Spells`). Otherwise the first entry that is not valid is refused, for
its number of parameters, else for its first unknown word of a parameter, else for the word for its
result (`Entry.Refused`), and always under its own name. `Entry.resolve_eq_error_iff` says this of
one entry and `mapM_resolve_outcome` of a list of them.
-/

namespace FheSolidity

/-! ## Words -/

/-- Whether a word of an entry is known: it is one of the two class names, or the name of a type. -/
def Known (word : String) : Prop :=
  word = "encrypted" ∨ word = "plaintext" ∨ ∃ t : ValueType, word = t.name

/-- The word that spells a parameter. -/
inductive Parameter.Spelled : String → Parameter → Prop
  /-- Any encrypted type is spelled by the name of the class. -/
  | anyEncrypted : Spelled "encrypted" .anyEncrypted
  /-- So is any plaintext type. -/
  | anyPlaintext : Spelled "plaintext" .anyPlaintext
  /-- A single type is spelled by its name. -/
  | exactly (t : ValueType) : Spelled t.name (.exactly t)

/-- The word that spells a result rule, if it takes one. -/
inductive ResultRule.Spelled : Option String → ResultRule → Prop
  /-- Promotion is what goes without saying. -/
  | unsaid : Spelled none .promoted
  /-- Promotion may be spelled as well. -/
  | promoted : Spelled (some "encrypted") .promoted
  /-- Extraction is spelled by what it gives. -/
  | extracted : Spelled (some "plaintext") .extracted
  /-- A fixed type is spelled by its name. -/
  | exactly (t : ValueType) : Spelled (some t.name) (.exactly t)

/-- The name of a type is no class name. -/
theorem ValueType.name_ne_class (t : ValueType) : t.name ≠ "encrypted" ∧ t.name ≠ "plaintext" := by
  obtain ⟨encrypted, width⟩ := t
  cases encrypted <;> cases width <;> decide

/-- The parameter that is looked up for a word is the one that the word spells. -/
theorem Parameter.ofWord?_eq_some_iff {word : String} {param : Parameter} :
    ofWord? word = some param ↔ Spelled word param := by
  constructor
  · intro h
    unfold ofWord? at h
    split at h
    · next hword =>
      obtain rfl := Option.some.inj h
      exact hword ▸ .anyEncrypted
    · split at h
      · next hword =>
        obtain rfl := Option.some.inj h
        exact hword ▸ .anyPlaintext
      · obtain ⟨t, ht, rfl⟩ := Option.map_eq_some_iff.1 h
        exact ValueType.ofName?_eq_some_iff.1 ht ▸ .exactly t
  · intro h
    cases h with
    | anyEncrypted => rfl
    | anyPlaintext => rfl
    | exactly t =>
      unfold ofWord?
      rw [if_neg t.name_ne_class.1, if_neg t.name_ne_class.2, t.ofName?_name]
      rfl

/-- The result rule that is looked up for a word is the one that the word spells. -/
theorem ResultRule.ofWord?_eq_some_iff {word : Option String} {rule : ResultRule} :
    ofWord? word = some rule ↔ Spelled word rule := by
  constructor
  · intro h
    cases word with
    | none =>
      obtain rfl := Option.some.inj h
      exact .unsaid
    | some word =>
      change (if word = "encrypted" then some promoted
        else if word = "plaintext" then some extracted
        else (ValueType.ofName? word).map exactly) = some rule at h
      split at h
      · next hword =>
        obtain rfl := Option.some.inj h
        exact hword ▸ .promoted
      · split at h
        · next hword =>
          obtain rfl := Option.some.inj h
          exact hword ▸ .extracted
        · obtain ⟨t, ht, rfl⟩ := Option.map_eq_some_iff.1 h
          exact ValueType.ofName?_eq_some_iff.1 ht ▸ .exactly t
  · intro h
    cases h with
    | unsaid => rfl
    | promoted => rfl
    | extracted => rfl
    | exactly t =>
      show (if t.name = "encrypted" then some promoted
        else if t.name = "plaintext" then some extracted else _) = _
      rw [if_neg t.name_ne_class.1, if_neg t.name_ne_class.2, t.ofName?_name]
      rfl

/-- A word is known exactly if it spells a parameter. -/
theorem known_iff_exists_parameter {word : String} :
    Known word ↔ ∃ param, Parameter.Spelled word param := by
  constructor
  · intro h
    rcases h with rfl | rfl | ⟨t, rfl⟩
    · exact ⟨_, .anyEncrypted⟩
    · exact ⟨_, .anyPlaintext⟩
    · exact ⟨_, .exactly t⟩
  · intro h
    obtain ⟨param, hparam⟩ := h
    cases hparam with
    | anyEncrypted => exact .inl rfl
    | anyPlaintext => exact .inr (.inl rfl)
    | exactly t => exact .inr (.inr ⟨t, rfl⟩)

/-- Whether a word is known can be found out by looking it up. -/
instance : DecidablePred Known := fun word =>
  decidable_of_iff ((Parameter.ofWord? word).isSome = true) <| by
    simp only [Option.isSome_iff_exists, Parameter.ofWord?_eq_some_iff, known_iff_exists_parameter]

/-- Every word for a result that is known, if there is one, spells a result rule, and no other word
does. -/
theorem known_iff_exists_resultRule {word : Option String} :
    (∀ text, word = some text → Known text) ↔ ∃ rule, ResultRule.Spelled word rule := by
  constructor
  · intro h
    cases word with
    | none => exact ⟨_, .unsaid⟩
    | some text =>
      rcases h text rfl with rfl | rfl | ⟨t, rfl⟩
      · exact ⟨_, .promoted⟩
      · exact ⟨_, .extracted⟩
      · exact ⟨_, .exactly t⟩
  · intro h text htext
    obtain ⟨rule, hrule⟩ := h
    cases hrule with
    | unsaid => exact nomatch htext
    | promoted => exact .inl (Option.some.inj htext).symm
    | extracted => exact .inr (.inl (Option.some.inj htext).symm)
    | exactly t => exact .inr (.inr ⟨t, (Option.some.inj htext).symm⟩)

/-! ## Single entries -/

namespace Entry

/-- Whether an entry describes an operation: it has as many parameters as it claims, if it claims to
have a number of them, and all of its words are known. -/
structure Valid (entry : Entry) : Prop where
  /-- The entry has as many parameters as it claims. -/
  arity : ∀ n, entry.arity = some n → n = entry.inputs.length
  /-- The words for its parameters are known. -/
  inputs : ∀ word ∈ entry.inputs, Known word
  /-- The word for its result is known, if there is one. -/
  returns : ∀ word, entry.returns = some word → Known word

/-- Whether an operation is the one that an entry spells. -/
structure Spells (entry : Entry) (op : Operation) : Prop where
  /-- The entry has as many parameters as it claims. -/
  arity : ∀ n, entry.arity = some n → n = entry.inputs.length
  /-- The operation has the name of the entry. -/
  name : op.name = entry.name
  /-- Each parameter is the one that the word at its place spells. -/
  params : List.Forall₂ Parameter.Spelled entry.inputs op.params
  /-- The result rule is the one that the entry spells. -/
  result : ResultRule.Spelled entry.returns op.result
  /-- The operation makes sense on truth values and byte strings if the entry says so. -/
  booleanMath : op.booleanMath = entry.booleanMath
  /-- The inputs should be of one type if the entry says so. -/
  sameType : op.sameType = entry.sameType

/-- Why an entry is refused. A wrong number of parameters comes before an unknown word, and the
words for the parameters, from left to right, come before the word for the result. -/
inductive Refused (entry : Entry) : MetadataFault → Prop
  /-- The entry has another number of parameters than it claims. -/
  | arity {declared : Nat} (hdeclared : entry.arity = some declared)
    (hne : declared ≠ entry.inputs.length) :
    Refused entry (.arityMismatch entry.name declared entry.inputs.length)
  /-- A word for a parameter is unknown, and those before it are known. -/
  | input {before after : List String} {word : String}
    (harity : ∀ n, entry.arity = some n → n = entry.inputs.length)
    (hinputs : entry.inputs = before ++ word :: after) (hbefore : ∀ w ∈ before, Known w)
    (hword : ¬Known word) : Refused entry (.unknownType entry.name word)
  /-- The word for the result is unknown, and those for the parameters are known. -/
  | returns {word : String} (harity : ∀ n, entry.arity = some n → n = entry.inputs.length)
    (hinputs : ∀ w ∈ entry.inputs, Known w) (hreturns : entry.returns = some word)
    (hword : ¬Known word) : Refused entry (.unknownType entry.name word)

/-- What an entry stands for is what it spells. -/
theorem means_iff_spells {entry : Entry} {op : Operation} : entry.Means op ↔ entry.Spells op := by
  have hparams : List.Forall₂ (fun word param => Parameter.ofWord? word = some param) entry.inputs
      op.params ↔ List.Forall₂ Parameter.Spelled entry.inputs op.params := by
    simp only [Parameter.ofWord?_eq_some_iff]
  constructor
  · intro h
    exact ⟨h.arity, h.name, hparams.1 h.params, ResultRule.ofWord?_eq_some_iff.1 h.result,
      h.booleanMath, h.sameType⟩
  · intro h
    exact ⟨h.arity, h.name, hparams.2 h.params, ResultRule.ofWord?_eq_some_iff.2 h.result,
      h.booleanMath, h.sameType⟩

/-- The parameter that a known word of an entry spells is found. -/
theorem exists_resolveInput_iff {entry : Entry} {word : String} :
    (∃ param, entry.resolveInput word = .ok param) ↔ Known word := by
  simp only [resolveInput_eq_ok_iff, Parameter.ofWord?_eq_some_iff, known_iff_exists_parameter]

/-- An entry is valid exactly if it spells an operation. -/
theorem valid_iff_exists_spells {entry : Entry} : entry.Valid ↔ ∃ op, entry.Spells op := by
  constructor
  · intro h
    obtain ⟨params, hparams⟩ : ∃ params, entry.inputs.mapM entry.resolveInput = .ok params :=
      exists_mapM_eq_ok_iff.2 fun word hword => exists_resolveInput_iff.2 (h.inputs word hword)
    have hspelled : List.Forall₂ Parameter.Spelled entry.inputs params := by
      refine (mapM_eq_ok_iff.1 hparams).imp fun word param hparam => ?_
      exact Parameter.ofWord?_eq_some_iff.1 (resolveInput_eq_ok_iff.1 hparam)
    obtain ⟨rule, hrule⟩ := known_iff_exists_resultRule.1 h.returns
    exact ⟨⟨entry.name, params, rule, entry.booleanMath, entry.sameType⟩, h.arity, rfl, hspelled,
      hrule, rfl, rfl⟩
  · intro h
    obtain ⟨op, hop⟩ := h
    have hknown : List.Forall₂ (fun word param => Known word ∧ Parameter.Spelled word param)
        entry.inputs op.params :=
      hop.params.imp fun word param hparam =>
        ⟨known_iff_exists_parameter.2 ⟨param, hparam⟩, hparam⟩
    exact ⟨hop.arity, ((List.forall₂_and_left _ _).1 hknown).1,
      known_iff_exists_resultRule.2 ⟨_, hop.result⟩⟩

/-! ### The checks of an entry -/

variable {entry : Entry} {fault : MetadataFault}

/-- The number of parameters is refused if it is not the one that the entry claims. -/
theorem checkArity_eq_error_iff : entry.checkArity = .error fault ↔
    ∃ declared, entry.arity = some declared ∧ declared ≠ entry.inputs.length ∧
      fault = .arityMismatch entry.name declared entry.inputs.length := by
  unfold checkArity
  split
  · next harity => simp [harity]
  · next declared harity =>
    by_cases heq : declared = entry.inputs.length
    · simp [heq, harity]
    · simp [heq, harity, eq_comm]

/-- A word for a parameter is refused if it is unknown. -/
theorem resolveInput_eq_error_iff {word : String} : entry.resolveInput word = .error fault ↔
    ¬Known word ∧ fault = .unknownType entry.name word := by
  rw [← @exists_resolveInput_iff entry]
  unfold resolveInput
  split
  · simp
  · simp [eq_comm]

/-- The result rule that an entry asks for is found if the word for it is known, or if there is
none. -/
theorem exists_resolveReturns_iff :
    (∃ rule, entry.resolveReturns = .ok rule) ↔ ∀ word, entry.returns = some word → Known word := by
  simp only [resolveReturns_eq_ok_iff, ResultRule.ofWord?_eq_some_iff, known_iff_exists_resultRule]

/-- The word for the result is refused if it is unknown. -/
theorem resolveReturns_eq_error_iff : entry.resolveReturns = .error fault ↔
    ∃ word, entry.returns = some word ∧ ¬Known word ∧ fault = .unknownType entry.name word := by
  have hfound := @exists_resolveReturns_iff entry
  cases hreturns : entry.returns with
  | none =>
    have hpromoted : entry.resolveReturns = .ok .promoted := by
      rw [resolveReturns, hreturns]
      rfl
    simp [hpromoted]
  | some word =>
    simp only [hreturns, Option.some.injEq, forall_eq', exists_eq_left'] at hfound ⊢
    rw [← hfound]
    unfold resolveReturns
    split
    · simp
    · simp [hreturns, eq_comm]

/-- The words for the parameters are refused for the first of them that is unknown. -/
theorem mapM_resolveInput_eq_error_iff :
    entry.inputs.mapM entry.resolveInput = .error fault ↔
      ∃ before word after, entry.inputs = before ++ word :: after ∧ (∀ w ∈ before, Known w) ∧
        ¬Known word ∧ fault = .unknownType entry.name word := by
  simp only [mapM_eq_error_iff, exists_resolveInput_iff, resolveInput_eq_error_iff]

/-- The words for the parameters are all found if they are known. -/
theorem exists_mapM_resolveInput_iff :
    (∃ params, entry.inputs.mapM entry.resolveInput = .ok params) ↔
      ∀ word ∈ entry.inputs, Known word := by
  simp only [exists_mapM_eq_ok_iff, exists_resolveInput_iff]

/-- The number of parameters passes if it is the one that the entry claims. -/
theorem exists_checkArity_iff : (∃ u, entry.checkArity = .ok u) ↔
    ∀ n, entry.arity = some n → n = entry.inputs.length :=
  ⟨fun ⟨_, h⟩ => checkArity_eq_ok_iff.1 h, fun h => ⟨(), checkArity_eq_ok_iff.2 h⟩⟩

/-- An entry comes to an operation exactly if it is valid. -/
theorem exists_resolve_iff : (∃ op, entry.resolve = .ok op) ↔ entry.Valid := by
  simp only [resolve_eq_ok_iff, means_iff_spells, valid_iff_exists_spells]

/-- An entry is refused for the first of its faults. -/
theorem resolve_eq_error_iff : entry.resolve = .error fault ↔ entry.Refused fault := by
  -- A check is made only if those before it have passed.
  have hchecks : entry.resolve = .error fault ↔ entry.checkArity = .error fault ∨
      (∃ u, entry.checkArity = .ok u) ∧ (entry.inputs.mapM entry.resolveInput = .error fault ∨
        (∃ params, entry.inputs.mapM entry.resolveInput = .ok params) ∧
          entry.resolveReturns = .error fault) := by
    unfold resolve
    simp only [bind_eq_error_iff, pure, Except.pure, reduceCtorEq, and_false, exists_false,
      or_false, exists_and_right]
  rw [hchecks, checkArity_eq_error_iff, exists_checkArity_iff, mapM_resolveInput_eq_error_iff,
    exists_mapM_resolveInput_iff, resolveReturns_eq_error_iff]
  constructor
  · intro h
    rcases h with ⟨declared, hdeclared, hne, rfl⟩ |
      ⟨harity, ⟨before, word, after, hinputs, hbefore, hword, rfl⟩ |
        ⟨hinputs, word, hreturns, hword, rfl⟩⟩
    · exact .arity hdeclared hne
    · exact .input harity hinputs hbefore hword
    · exact .returns harity hinputs hreturns hword
  · intro h
    cases h with
    | arity hdeclared hne => exact .inl ⟨_, hdeclared, hne, rfl⟩
    | input harity hinputs hbefore hword =>
      exact .inr ⟨harity, .inl ⟨_, _, _, hinputs, hbefore, hword, rfl⟩⟩
    | returns harity hinputs hreturns hword =>
      exact .inr ⟨harity, .inr ⟨hinputs, _, hreturns, hword, rfl⟩⟩

/-- An entry that is refused is not valid. -/
theorem Refused.not_valid (h : entry.Refused fault) : ¬entry.Valid := by
  rw [← exists_resolve_iff, resolve_eq_error_iff.2 h]
  exact fun ⟨_, hop⟩ => nomatch hop

/-! ## Lists of entries -/

/-- What some entries come to. They come to operations exactly if all of them are valid, and then to
those that they spell, one for each entry at its place. Otherwise the first entry that is not valid
is refused, for the first of its faults and under its own name. -/
theorem mapM_resolve_outcome (entries : List Entry) :
    ((∃ ops, entries.mapM resolve = .ok ops) ↔ ∀ entry ∈ entries, entry.Valid) ∧
    (∀ ops, entries.mapM resolve = .ok ops ↔ List.Forall₂ Spells entries ops) ∧
    (∀ fault, entries.mapM resolve = .error fault ↔
      ∃ before entry after, entries = before ++ entry :: after ∧ (∀ e ∈ before, e.Valid) ∧
        ¬entry.Valid ∧ entry.Refused fault) := by
  refine ⟨?_, fun ops => ?_, fun fault => ?_⟩
  · simp only [exists_mapM_eq_ok_iff, exists_resolve_iff]
  · simp only [mapM_eq_ok_iff, resolve_eq_ok_iff, means_iff_spells]
  · simp only [mapM_eq_error_iff, exists_resolve_iff, resolve_eq_error_iff]
    constructor
    · intro h
      obtain ⟨before, entry, after, hentries, hbefore, hrefused⟩ := h
      exact ⟨before, entry, after, hentries, hbefore, hrefused.not_valid, hrefused⟩
    · intro h
      obtain ⟨before, entry, after, hentries, hbefore, -, hrefused⟩ := h
      exact ⟨before, entry, after, hentries, hbefore, hrefused⟩

/-- Of several faults in several entries, the one reported is the first unknown word of the first
entry that has a fault: not the unknown word for its result, and not the wrong number of parameters
in the entry behind it. -/
theorem mapM_resolve_outcome_of_several_faults :
    ([⟨"add", ["encrypted", "euint8"], none, false, true, some 2⟩,
        ⟨"sub", ["plaintext", "int", "nat"], some "real", false, false, some 3⟩,
        ⟨"mul", ["rational"], none, false, false, some 2⟩] : List Entry).mapM resolve =
      .error (.unknownType "sub" "int") := by
  refine ((mapM_resolve_outcome _).2.2 _).2 ⟨[_], _, [_], rfl, ?_, ?_, ?_⟩
  · rw [List.forall_mem_singleton]
    exact ⟨by simp, by decide, by simp⟩
  · intro hvalid
    exact absurd (hvalid.inputs "int" (by decide)) (by decide)
  · exact @Refused.input _ ["plaintext"] ["nat"] _ (by simp) rfl (by decide) (by decide)

end Entry

end FheSolidity
