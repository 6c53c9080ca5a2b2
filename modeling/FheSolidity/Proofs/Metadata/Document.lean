import FheSolidity.Metadata.Document
import FheSolidity.Proofs.Json.Value
import FheSolidity.Proofs.Metadata.Entry

/-!
# Spellings of metadata

An entry may be written as an object of its members in any order or as an array of the same values,
and in both forms what may be left out counts as null or false (`Entry.Describes`). However it is
written, it is read as the entry. For an object this rests on the draft: what has been read so far
depends on the keys alone, not on their order (`builds_draft`). For an array each optional value is
either the next element or, at the closing bracket, the default (`optional_step`). So a metadata
document gives the operations of its entries, whichever document of them it is
(`readMetadata_of_spells`).
-/

namespace FheSolidity

open Json

namespace Entry

/-! ## Spellings -/

/-- The members of an entry in the order of their positions. -/
def members (entry : Entry) : List (String × Datum) :=
  [("name", .text entry.name), ("inputs", .array (entry.inputs.map .text)),
    ("returns", (entry.returns.map .text).getD .null), ("boolean_math", .truth entry.booleanMath),
    ("same_type", .truth entry.sameType), ("arity", (entry.arity.map .count).getD .null)]

/-- The members that may be left out. -/
def defaults : List (String × Datum) :=
  [("returns", .null), ("boolean_math", .truth false), ("same_type", .truth false),
    ("arity", .null)]

/-- The values that describe an entry. -/
inductive Describes (entry : Entry) : Datum → Prop
  /-- An object has the members of the entry in any order, some defaults left out. -/
  | byName {members omitted : List (String × Datum)}
    (hmembers : (members ++ omitted).Perm entry.members) (homitted : omitted ⊆ defaults) :
    Describes entry (.object members)
  /-- An array has the values of the members in their order, some defaults at the end left out. -/
  | byPosition {items omitted : List Datum}
    (hitems : items ++ omitted = entry.members.map Prod.snd)
    (homitted : omitted <:+ defaults.map Prod.snd) :
    Describes entry (.array items)

/-! ## Values of members -/

/-- The texts of an array are read as a list. -/
theorem reads_texts (texts : List String) :
    (Reader.list .text).Reads (.array (texts.map .text)) texts := by
  apply Reader.reads_list
  rw [List.forall₂_map_left_iff, List.forall₂_same]
  exact fun s _ => Reader.reads_text s

/-- A value or a null is read as the value or as nothing. -/
theorem reads_getD_null {α : Type} {value : Reader α} {f : α → Datum}
    (hvalue : ∀ a, value.Reads (f a) a) (hf : ∀ a, f a ≠ .null) (o : Option α) :
    (Reader.orNull value).Reads ((o.map f).getD .null) o := by
  cases o with
  | none => exact Reader.reads_orNull_null value
  | some a => exact Reader.reads_orNull (hf a) (hvalue a)

/-- The value that stands for nothing is null. -/
theorem eq_none_of_getD_eq_null {α : Type} {f : α → Datum} (hf : ∀ a, f a ≠ .null) {o : Option α}
    (h : (o.map f).getD .null = .null) : o = none := by
  cases o with
  | none => rfl
  | some a => exact absurd h (hf a)

/-- The result of an entry is read as it is. -/
theorem reads_returns (entry : Entry) :
    (Reader.orNull .text).Reads ((entry.returns.map .text).getD .null) entry.returns :=
  reads_getD_null Reader.reads_text nofun entry.returns

/-- The number of parameters that an entry claims is read as it is. -/
theorem reads_arity (entry : Entry) :
    (Reader.orNull .count).Reads ((entry.arity.map .count).getD .null) entry.arity :=
  reads_getD_null Reader.reads_count nofun entry.arity

/-! ## Entries as objects -/

/-- The draft of an entry of which the members with some keys have been read. -/
def draft (entry : Entry) (keys : List String) : Draft where
  name := if "name" ∈ keys then some entry.name else none
  inputs := if "inputs" ∈ keys then some entry.inputs else none
  returns := if "returns" ∈ keys then some entry.returns else none
  booleanMath := if "boolean_math" ∈ keys then some entry.booleanMath else none
  sameType := if "same_type" ∈ keys then some entry.sameType else none
  arity := if "arity" ∈ keys then some entry.arity else none

/-- A member whose slot is empty is read into the slot. -/
theorem exists_once {α : Type} {slot : Option α} {value : Reader α} {put : α → Draft} {d : Datum}
    {a : α} {next : Draft} (hslot : slot = none) (hvalue : value.Reads d a) (hput : put a = next) :
    ∃ reader, Draft.once slot value put = .ok reader ∧ reader.Reads d next := by
  subst hslot hput
  exact ⟨_, rfl, Reader.reads_map put hvalue⟩

/-- A member that has not been read is read into the draft. -/
theorem exists_step_draft {entry : Entry} {keys : List String} {key : String} {d : Datum}
    (hmem : (key, d) ∈ entry.members) (hkey : key ∉ keys) :
    ∃ value, (entry.draft keys).step key = .ok value ∧
      value.Reads d (entry.draft (keys ++ [key])) := by
  simp only [members, List.mem_cons, Prod.mk.injEq, List.not_mem_nil, or_false] at hmem
  rcases hmem with ⟨rfl, rfl⟩ | ⟨rfl, rfl⟩ | ⟨rfl, rfl⟩ | ⟨rfl, rfl⟩ | ⟨rfl, rfl⟩ | ⟨rfl, rfl⟩
  · exact exists_once (if_neg hkey) (Reader.reads_text entry.name) (by simp [draft])
  · exact exists_once (if_neg hkey) (reads_texts entry.inputs) (by simp [draft])
  · exact exists_once (if_neg hkey) (reads_returns entry) (by simp [draft])
  · exact exists_once (if_neg hkey) (Reader.reads_truth entry.booleanMath) (by simp [draft])
  · exact exists_once (if_neg hkey) (Reader.reads_truth entry.sameType) (by simp [draft])
  · exact exists_once (if_neg hkey) (reads_arity entry) (by simp [draft])

/-- Members of an entry with different keys are read into the draft one by one, in any order. -/
theorem builds_draft {entry : Entry} {done : List String} {members : List (String × Datum)}
    (hmembers : members ⊆ entry.members) (hkeys : (done ++ members.map Prod.fst).Nodup) :
    Reader.Builds Draft.step (entry.draft done) members
      (entry.draft (done ++ members.map Prod.fst)) := by
  -- A draft depends on the keys only, so the first key moves to those that have been read.
  induction members generalizing done with
  | nil =>
    rw [List.map_nil, List.append_nil]
    exact .nil _
  | cons member members ih =>
    obtain ⟨hmember, hmembers⟩ := List.cons_subset.1 hmembers
    rw [List.map_cons] at hkeys ⊢
    have hkey : member.1 ∉ done := by
      intro hmem
      exact List.disjoint_of_nodup_append hkeys hmem List.mem_cons_self
    obtain ⟨value, hstep, hvalue⟩ := exists_step_draft hmember hkey
    rw [List.append_cons] at hkeys ⊢
    exact .cons hstep hvalue (ih hmembers hkeys)

/-- The keys of an entry are different. -/
theorem nodup_keys_members (entry : Entry) : (entry.members.map Prod.fst).Nodup := by
  show ["name", "inputs", "returns", "boolean_math", "same_type", "arity"].Nodup
  decide

/-- A slot that is empty only for a default holds the value or stands for it. -/
theorem getD_slot {α : Type} {c : Prop} [Decidable c] {a default : α} (h : ¬c → a = default) :
    (if c then some a else none).getD default = a := by
  split_ifs with hc
  · rfl
  · exact (h hc).symm

/-- A slot that is empty only for nothing holds the optional value or stands for it. -/
theorem join_slot {α : Type} {c : Prop} [Decidable c] {o : Option α} (h : ¬c → o = none) :
    (if c then some o else none).join = o := by
  split_ifs with hc
  · rfl
  · exact (h hc).symm

/-- The draft of an entry gives the entry if every member that has not been read has the default for
its value. -/
theorem entry_draft {entry : Entry} {keys : List String}
    (h : ∀ member ∈ entry.members, member.1 ∉ keys → member ∈ defaults) :
    (entry.draft keys).entry = .ok entry := by
  simp only [members, List.forall_mem_cons, List.not_mem_nil, false_implies, implies_true,
    and_true] at h
  obtain ⟨hname, hinputs, hreturns, hmath, hsame, harity⟩ := h
  have hnameMem : "name" ∈ keys := by
    by_contra hkey
    exact absurd (hname hkey) (by simp [defaults])
  have hinputsMem : "inputs" ∈ keys := by
    by_contra hkey
    exact absurd (hinputs hkey) (by simp [defaults])
  have hreturnsSlot : (entry.draft keys).returns.join = entry.returns := by
    refine join_slot fun hkey => eq_none_of_getD_eq_null (f := .text) nofun ?_
    simpa [defaults] using hreturns hkey
  have hmathSlot : (entry.draft keys).booleanMath.getD false = entry.booleanMath := by
    refine getD_slot fun hkey => ?_
    simpa [defaults] using hmath hkey
  have hsameSlot : (entry.draft keys).sameType.getD false = entry.sameType := by
    refine getD_slot fun hkey => ?_
    simpa [defaults] using hsame hkey
  have haritySlot : (entry.draft keys).arity.join = entry.arity := by
    refine join_slot fun hkey => eq_none_of_getD_eq_null (f := .count) nofun ?_
    simpa [defaults] using harity hkey
  unfold Draft.entry
  rw [show (entry.draft keys).name = some entry.name from if_pos hnameMem,
    show (entry.draft keys).inputs = some entry.inputs from if_pos hinputsMem, hreturnsSlot,
    hmathSlot, hsameSlot, haritySlot]

/-- An object that describes an entry is read as the entry. -/
theorem reads_byName {entry : Entry} {members omitted : List (String × Datum)}
    (hmembers : (members ++ omitted).Perm entry.members) (homitted : omitted ⊆ defaults) :
    byName.Reads (.object members) entry := by
  have hkeys : (members.map Prod.fst).Nodup := by
    have hall := (hmembers.map Prod.fst).nodup_iff.2 entry.nodup_keys_members
    rw [List.map_append] at hall
    exact hall.of_append_left
  have hsubset : members ⊆ entry.members := fun member hmember =>
    hmembers.mem_iff.1 (List.mem_append_left _ hmember)
  have hdefault : ∀ member ∈ entry.members, member.1 ∉ members.map Prod.fst →
      member ∈ defaults := by
    intro member hmember hkey
    rcases List.mem_append.1 (hmembers.mem_iff.2 hmember) with h | h
    · exact absurd (List.mem_map_of_mem h) hkey
    · exact homitted h
  have hbuilds := @builds_draft entry [] members hsubset hkeys
  exact Reader.reads_check (Reader.reads_object hbuilds) (entry_draft hdefault)

/-! ## Entries as arrays -/

/-- What stands in an array behind the elements that have been read. -/
def restOfArray (items : List Datum) (rest : List Token) : List Token :=
  (items.map Datum.tokens).flatMap (fun part => .comma :: part) ++ .closeBracket :: rest

/-- The next element stands behind a comma. -/
theorem restOfArray_cons (item : Datum) (items : List Datum) (rest : List Token) :
    restOfArray (item :: items) rest = .comma :: (item.tokens ++ restOfArray items rest) := by
  unfold restOfArray
  rw [List.map_cons, List.flatMap_cons, List.append_assoc, List.cons_append]

/-- The first element of an array is read where it has to be there. -/
theorem required_firstPlace {α : Type} {value : Reader α} {d : Datum} {a : α}
    (h : value.Reads d a) (rest : List Token) :
    required value (firstPlace .closeBracket (d.tokens ++ rest)) = .ok (a, rest) := by
  rw [Reader.firstPlace_tokens]
  exact h rest

/-- The next element of an array is read where it has to be there. -/
theorem required_nextPlace {α : Type} {value : Reader α} {d : Datum} {a : α}
    (h : value.Reads d a) (rest : List Token) :
    required value (nextPlace .closeBracket (.comma :: (d.tokens ++ rest))) = .ok (a, rest) := by
  rw [Reader.nextPlace_comma_tokens]
  exact h rest

/-- An optional value is the next element, or the default if all that is left out from there on is
the default. -/
theorem optional_step {α : Type} {value : Reader α} {default a : α} {d usual : Datum}
    {expected usuals items omitted : List Datum} (hitems : items ++ omitted = d :: expected)
    (homitted : omitted <:+ usual :: usuals) (hlength : expected.length = usuals.length)
    (hvalue : value.Reads d a) (hdefault : d = usual → a = default) :
    ∃ items' omitted', items' ++ omitted' = expected ∧ omitted' <:+ usuals ∧
      ∀ rest, optional value default (restOfArray items rest) =
        .ok (a, restOfArray items' rest) := by
  cases items with
  | nil =>
    -- All values from here on are left out, so they are the defaults from here on.
    rw [List.nil_append] at hitems
    subst hitems
    have hall := homitted.eq_of_length (by rw [List.length_cons, List.length_cons, hlength])
    obtain ⟨hd, rfl⟩ := List.cons.inj hall
    rw [hdefault hd]
    exact ⟨[], expected, rfl, List.suffix_refl _, fun _ => rfl⟩
  | cons item items =>
    have hexpected : items ++ omitted = expected := List.tail_eq_of_cons_eq hitems
    obtain rfl : item = d := List.head_eq_of_cons_eq hitems
    refine ⟨items, omitted, hexpected, ?_, fun rest => ?_⟩
    · rcases List.suffix_cons_iff.1 homitted with hall | hall
      · have hlong := congrArg List.length hexpected
        rw [hall, List.length_append, List.length_cons, hlength] at hlong
        omega
      · exact hall
    · rw [restOfArray_cons]
      unfold optional
      rw [Reader.nextPlace_comma_tokens]
      exact hvalue _

/-- The name and the inputs of an entry are the first elements of an array that describes it. -/
theorem exists_items_eq_cons {entry : Entry} {items omitted : List Datum}
    (hitems : items ++ omitted = entry.members.map Prod.snd)
    (homitted : omitted <:+ defaults.map Prod.snd) :
    ∃ others, items = .text entry.name :: .array (entry.inputs.map .text) :: others := by
  have hall : items.length + omitted.length = 6 := by
    rw [← List.length_append, hitems]
    rfl
  have hfew : omitted.length ≤ 4 := homitted.length_le
  match items, hitems, hall with
  | [], _, hall => exact absurd hall (by rw [List.length_nil]; omega)
  | [_], _, hall => exact absurd hall (by rw [List.length_singleton]; omega)
  | name :: inputs :: others, hitems, _ =>
    obtain ⟨hname, hitems⟩ := List.cons.inj hitems
    obtain ⟨hinputs, -⟩ := List.cons.inj hitems
    exact ⟨others, by rw [hname, hinputs]⟩

/-- An array that describes an entry is read as the entry. -/
theorem readByPosition_items {entry : Entry} {items omitted : List Datum}
    (hitems : items ++ omitted = entry.members.map Prod.snd)
    (homitted : omitted <:+ defaults.map Prod.snd) (rest : List Token) :
    readByPosition (separate (items.map Datum.tokens) ++ .closeBracket :: rest) =
      .ok (entry, rest) := by
  obtain ⟨others, rfl⟩ := exists_items_eq_cons hitems homitted
  -- From one optional value to the next, fewer elements are left, and fewer were left out.
  have hothers := (List.cons.inj (List.cons.inj hitems).2).2
  obtain ⟨others₁, omitted₁, hothers₁, homitted₁, hreturns⟩ :=
    optional_step hothers homitted rfl (reads_returns entry) (eq_none_of_getD_eq_null nofun)
  obtain ⟨others₂, omitted₂, hothers₂, homitted₂, hmath⟩ :=
    optional_step hothers₁ homitted₁ rfl (Reader.reads_truth entry.booleanMath) Datum.truth.inj
  obtain ⟨others₃, omitted₃, hothers₃, homitted₃, hsame⟩ :=
    optional_step hothers₂ homitted₂ rfl (Reader.reads_truth entry.sameType) Datum.truth.inj
  obtain ⟨others₄, omitted₄, hothers₄, -, harity⟩ :=
    optional_step hothers₃ homitted₃ rfl (reads_arity entry) (eq_none_of_getD_eq_null nofun)
  obtain rfl : others₄ = [] := (List.append_eq_nil_iff.1 hothers₄).1
  have htokens : separate ((Datum.text entry.name :: .array (entry.inputs.map .text) ::
      others).map Datum.tokens) ++ .closeBracket :: rest = (Datum.text entry.name).tokens ++
        .comma :: ((Datum.array (entry.inputs.map .text)).tokens ++ restOfArray others rest) := by
    rw [List.map_cons, separate, List.append_assoc]
    exact congrArg _ (restOfArray_cons _ _ _)
  unfold readByPosition
  rw [htokens, required_firstPlace (Reader.reads_text entry.name)]
  show (required (.list .text) (nextPlace .closeBracket _) >>= _) = _
  rw [required_nextPlace (reads_texts entry.inputs)]
  show (optional (.orNull .text) none (restOfArray others rest) >>= _) = _
  rw [hreturns]
  show (optional .truth false (restOfArray others₁ rest) >>= _) = _
  rw [hmath]
  show (optional .truth false (restOfArray others₂ rest) >>= _) = _
  rw [hsame]
  show (optional (.orNull .count) none (restOfArray others₃ rest) >>= _) = _
  rw [harity]
  rfl

/-! ## Documents -/

/-- What describes an entry is read as the entry. -/
theorem reads_of_describes {entry : Entry} {d : Datum} (h : Describes entry d) :
    reader.Reads d entry := by
  intro rest
  cases h with
  | byName hmembers homitted => exact reads_byName hmembers homitted rest
  | @byPosition items omitted hitems homitted =>
    rw [Datum.tokens, Datum.itemTokens_eq_map]
    show readByPosition (separate (items.map Datum.tokens) ++ [.closeBracket] ++ rest) = _
    rw [List.append_assoc, List.singleton_append]
    exact readByPosition_items hitems homitted rest

end Entry

/-- Every document of some entries is read as the entries. -/
theorem readEntries_of_spells {entries : List Entry} {items : List Datum}
    (h : List.Forall₂ Entry.Describes entries items) {text : String}
    (htext : (Datum.array items).Spells text) : readEntries text = .ok entries := by
  have hitems : List.Forall₂ Entry.reader.Reads items entries :=
    h.flip.imp fun _ _ => Entry.reads_of_describes
  unfold readEntries
  rw [Reader.document_of_spells (Reader.reads_list hitems) htext]
  rfl

/-- Every document of some entries comes to the resolution of the entries in their order. If it
gives operations, the entries stand for them, and saying nothing of the result or calling it
encrypted means promotion. -/
theorem readMetadata_of_spells {entries : List Entry} {items : List Datum}
    (h : List.Forall₂ Entry.Describes entries items) {text : String}
    (htext : (Datum.array items).Spells text) :
    readMetadata text = entries.mapM Entry.resolve ∧
      ∀ operations, readMetadata text = .ok operations →
        List.Forall₂ (fun entry op => entry.Means op ∧
          (entry.returns = none ∨ entry.returns = some "encrypted" → op.result = .promoted))
          entries operations := by
  have hread : readMetadata text = entries.mapM Entry.resolve := by
    unfold readMetadata
    rw [readEntries_of_spells h htext]
    rfl
  refine ⟨hread, fun operations hoperations => ?_⟩
  rw [hread, mapM_eq_ok_iff] at hoperations
  refine hoperations.imp fun entry op hop => ?_
  have hmeans := Entry.resolve_eq_ok_iff.1 hop
  exact ⟨hmeans, hmeans.result_eq_promoted⟩

/-- Operations are read from an object with its members in another order, a null, an escape, blanks
and defaults left out, and from an array that is cut short. -/
theorem readMetadata_of_mixed_spellings :
    readMetadata ("[\n  \x7b\"inputs\":[\"encrypted\"],\"\\u006eame\": \"π\",\"returns\":null," ++
      "\"boolean_math\":true\x7d,\n  [\"b\",[],\"plaintext\"]\n]") =
        .ok [⟨"π", [.anyEncrypted], .promoted, true, false⟩,
          ⟨"b", [], .extracted, false, false⟩] := by
  have hentries : List.Forall₂ Entry.Describes
      [⟨"π", ["encrypted"], none, true, false, none⟩,
        ⟨"b", [], some "plaintext", false, false, none⟩]
      [.object [("inputs", .array [.text "encrypted"]), ("name", .text "π"), ("returns", .null),
        ("boolean_math", .truth true)],
        .array [.text "b", .array [], .text "plaintext"]] := by
    refine .cons ?_ (.cons ?_ .nil)
    · exact @Entry.Describes.byName _ _ [("same_type", .truth false), ("arity", .null)]
        (.swap _ _ _) (by simp [Entry.defaults])
    · exact @Entry.Describes.byPosition _ _ [.truth false, .truth false, .null] rfl
        ⟨[.null], rfl⟩
  -- The pieces of the text and their tokens, from the inside out.
  have hunit : UnitText 'n'.toNat ['0', '0', '6', 'e'] :=
    @UnitText.digits 0 0 6 14 _ _ _ _ ⟨by decide, .inl rfl⟩ ⟨by decide, .inl rfl⟩
      ⟨by decide, .inl rfl⟩ ⟨by decide, .inl rfl⟩
  have hkey : Holds "\"\\u006eame\"" [.text "name"] :=
    holds_token _ _ (@TokenText.text "name" _ (.cons (.unit hunit)
      (stringText_escape ['a', 'm', 'e']))) fun _ => trivial
  have hinputs := ((holds_quote "inputs").append (Layout.holds_colon .compact)).append
    (Value.holds_write .compact 0 (.array [.text "encrypted"]))
  have hname := (hkey.append (Layout.holds_colon .indented)).append (holds_quote "π")
  have hreturns := ((holds_quote "returns").append (Layout.holds_colon .compact)).append
    (holds_token "null" .null .null fun _ => trivial)
  have hmath := ((holds_quote "boolean_math").append (Layout.holds_colon .compact)).append
    (holds_token "true" (.truth true) (.truth true) fun _ => trivial)
  have hobject := Layout.holds_enclose .compact 1
    (holds_token "\x7b" .openBrace .openBrace fun _ => trivial)
    (holds_token "\x7d" .closeBrace .closeBrace fun _ => trivial)
    (.cons hinputs (.cons hname (.cons hreturns (.cons hmath .nil))))
  have harray := Value.holds_write .compact 1 (.array [.text "b", .array [], .text "plaintext"])
  have hall := Layout.holds_enclose .indented 0
    (holds_token "[" .openBracket .openBracket fun _ => trivial)
    (holds_token "]" .closeBracket .closeBracket fun _ => trivial)
    (.cons hobject (.cons harray .nil))
  have hread := (readMetadata_of_spells hentries (Datum.spells_of_holds hall)).1
  rw [show ([⟨"π", ["encrypted"], none, true, false, none⟩,
    ⟨"b", [], some "plaintext", false, false, none⟩] : List Entry).mapM Entry.resolve =
      .ok [⟨"π", [.anyEncrypted], .promoted, true, false⟩, ⟨"b", [], .extracted, false, false⟩]
    from rfl] at hread
  rw [← hread]
  exact congrArg readMetadata (by decide +kernel)

end FheSolidity
