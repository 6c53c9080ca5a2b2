import FheSolidity.Json.Object
import FheSolidity.Proofs.Json.Token

/-!
# Values of JSON and what readers make of them

A value determines its tokens, and `Datum.Spells` says which texts are documents of it. A reader
reads a value as something if it takes the tokens of the value off the front of any tokens and gives
that (`Reader.Reads`). There is one lemma of this kind for each way of building readers: a list is
read element by element, and an object member by member into a draft. `Reader.datum` reads any value
as itself.
-/

namespace FheSolidity.Json

/-! ## Values and their tokens -/

/-- A value of JSON. The only numbers are counts, and the members of an object keep their order. -/
inductive Datum
  | null
  | truth (value : Bool)
  | count (value : Nat)
  | text (value : String)
  | array (items : List Datum)
  | object (members : List (String × Datum))

/-- Parts with a comma between any two that are next to each other. -/
def separate : List (List Token) → List Token
  | [] => []
  | part :: parts => part ++ parts.flatMap fun part => .comma :: part

/-- The first of several parts is followed by a comma and the others. -/
theorem separate_cons_cons (part next : List Token) (parts : List (List Token)) :
    separate (part :: next :: parts) = part ++ .comma :: separate (next :: parts) := rfl

namespace Datum

mutual

/-- The tokens of a value. -/
def tokens : Datum → List Token
  | null => [.null]
  | truth b => [.truth b]
  | count n => [.number (.count n)]
  | text s => [.text s]
  | array items => .openBracket :: (separate (itemTokens items) ++ [.closeBracket])
  | object members => .openBrace :: (separate (memberTokens members) ++ [.closeBrace])

/-- The tokens of each element of an array. -/
def itemTokens : List Datum → List (List Token)
  | [] => []
  | item :: items => item.tokens :: itemTokens items

/-- The tokens of each member of an object. -/
def memberTokens : List (String × Datum) → List (List Token)
  | [] => []
  | (key, value) :: members => (.text key :: .colon :: value.tokens) :: memberTokens members

end

/-- The elements of an array are taken one by one. -/
theorem itemTokens_eq_map (items : List Datum) : itemTokens items = items.map tokens := by
  induction items with
  | nil => rfl
  | cons item items ih => rw [itemTokens, ih, List.map_cons]

/-- A value starts with a token that neither closes anything nor is a comma. -/
theorem exists_tokens_eq_cons (d : Datum) :
    ∃ first others, d.tokens = first :: others ∧ first ≠ .closeBracket ∧ first ≠ .closeBrace := by
  cases d with
  | null => exact ⟨_, _, rfl, nofun, nofun⟩
  | truth b => exact ⟨_, _, rfl, nofun, nofun⟩
  | count n => exact ⟨_, _, rfl, nofun, nofun⟩
  | text s => exact ⟨_, _, rfl, nofun, nofun⟩
  | array items => exact ⟨_, _, rfl, nofun, nofun⟩
  | object members => exact ⟨_, _, rfl, nofun, nofun⟩

/-- Whether a text is a document that holds a value: the value's tokens in order, each in any of its
spellings, with any blanks around them. -/
def Spells (d : Datum) (text : String) : Prop :=
  Written d.tokens text.toList

end Datum

namespace Reader

variable {α β δ : Type}

/-- A reader reads a value as something if it does so whatever follows the value. -/
def Reads (reader : Reader α) (d : Datum) (a : α) : Prop :=
  ∀ rest, reader.read (d.tokens ++ rest) = .ok (a, rest)

/-- What a value is read as is what every document of the value is read as. -/
theorem document_of_spells {reader : Reader α} {d : Datum} {a : α} (h : reader.Reads d a)
    {text : String} (htext : d.Spells text) : reader.document text = .ok a := by
  have hread := h []
  rw [List.append_nil] at hread
  unfold document
  rw [tokens_of_written htext, hread]

/-! ## Scalars -/

/-- A text is read as itself. -/
theorem reads_text (s : String) : Reader.text.Reads (.text s) s := fun _ => rfl

/-- A truth value is read as itself. -/
theorem reads_truth (b : Bool) : Reader.truth.Reads (.truth b) b := fun _ => rfl

/-- A count is read as itself. -/
theorem reads_count (n : Nat) : Reader.count.Reads (.count n) n := fun _ => rfl

/-- A null is read as nothing. -/
theorem reads_orNull_null (value : Reader α) : (orNull value).Reads .null none := fun _ => rfl

/-- What is no null is read as a value. -/
theorem reads_orNull {value : Reader α} {d : Datum} {a : α} (hd : d ≠ .null)
    (h : value.Reads d a) : (orNull value).Reads d (some a) := by
  intro rest
  have hnull : ∃ fault, Reader.null.read (d.tokens ++ rest) = .error fault := by
    cases d with
    | null => exact absurd rfl hd
    | truth b => exact ⟨_, rfl⟩
    | count n => exact ⟨_, rfl⟩
    | text s => exact ⟨_, rfl⟩
    | array items => exact ⟨_, rfl⟩
    | object members => exact ⟨_, rfl⟩
  obtain ⟨fault, hnull⟩ := hnull
  simp only [orNull, hnull, h rest]
  rfl

/-- A value is read as what a function makes of it. -/
theorem reads_check {value : Reader α} {f : α → Except Fault β} {d : Datum} {a : α} {b : β}
    (h : value.Reads d a) (hf : f a = .ok b) : (value.check f).Reads d b := by
  intro rest
  simp only [check, h rest, hf]
  rfl

/-- A value is read as its image. -/
theorem reads_map {value : Reader α} (f : α → β) {d : Datum} {a : α} (h : value.Reads d a) :
    (value.map f).Reads d (f a) :=
  reads_check h rfl

/-! ## Arrays -/

/-- A value stands at the first place of an array. -/
theorem firstPlace_tokens (d : Datum) (rest : List Token) :
    firstPlace .closeBracket (d.tokens ++ rest) = .ok (some (d.tokens ++ rest)) := by
  obtain ⟨first, others, htokens, hfirst, -⟩ := d.exists_tokens_eq_cons
  rw [htokens, List.cons_append]
  exact congrArg _ (if_neg hfirst)

/-- Behind a comma, a value stands at the next place of an array. -/
theorem nextPlace_comma_tokens (d : Datum) (rest : List Token) :
    nextPlace .closeBracket (.comma :: (d.tokens ++ rest)) = .ok (some (d.tokens ++ rest)) := by
  obtain ⟨first, others, htokens, hfirst, -⟩ := d.exists_tokens_eq_cons
  rw [htokens, List.cons_append]
  exact if_neg hfirst

/-- The closing token ends a list. -/
theorem nextPlace_close (close : Token) (rest : List Token) :
    nextPlace close (close :: rest) = .ok none :=
  if_pos rfl

/-- The elements after the first are read up to the closing bracket. -/
theorem moreElements_items {item : Reader α} {items : List Datum} {as : List α}
    (h : List.Forall₂ item.Reads items as) (rest : List Token) :
    moreElements item ((items.map Datum.tokens).flatMap (fun part => .comma :: part) ++
      .closeBracket :: rest) = .ok (as, rest) := by
  induction h with
  | nil =>
    rw [List.map_nil, List.flatMap_nil, List.nil_append, moreElements]
    split
    · next hplace =>
      rw [nextPlace_close] at hplace
      cases hplace
    · rfl
    · next hplace =>
      rw [nextPlace_close] at hplace
      cases hplace
  | @cons d a items as hitem _ ih =>
    rw [List.map_cons, List.flatMap_cons, List.append_assoc, List.cons_append, moreElements]
    split
    · next hplace =>
      rw [nextPlace_comma_tokens] at hplace
      cases hplace
    · next hplace =>
      rw [nextPlace_comma_tokens] at hplace
      cases hplace
    · next place hplace =>
      rw [nextPlace_comma_tokens, Except.ok.injEq, Option.some.injEq] at hplace
      subst hplace
      split
      · next hread =>
        rw [hitem] at hread
        cases hread
      · next hread =>
        rw [hitem, Except.ok.injEq, Prod.mk.injEq] at hread
        obtain ⟨rfl, rfl⟩ := hread
        rw [ih]

/-- An array is read as the list of what its elements are read as. -/
theorem reads_list {item : Reader α} {items : List Datum} {as : List α}
    (h : List.Forall₂ item.Reads items as) : (list item).Reads (.array items) as := by
  intro rest
  rw [Datum.tokens, Datum.itemTokens_eq_map]
  show elements item (separate (items.map Datum.tokens) ++ [.closeBracket] ++ rest) = _
  rw [List.append_assoc]
  cases h with
  | nil => rfl
  | @cons d a items as hitem hitems =>
    have hread : ∀ rest, item.read (d.tokens ++ rest) = .ok (a, rest) := hitem
    rw [List.map_cons, separate, List.append_assoc, List.singleton_append]
    simp only [elements, firstPlace_tokens, hread, moreElements_items hitems]

/-! ## Objects -/

/-- How the members of an object are read into a draft, one by one. -/
inductive Builds (step : δ → String → Except Fault (Reader δ)) :
    δ → List (String × Datum) → δ → Prop
  | nil (draft : δ) : Builds step draft [] draft
  | cons {draft next last : δ} {key : String} {value : Reader δ} {d : Datum}
    {members : List (String × Datum)} (hstep : step draft key = .ok value)
    (hvalue : value.Reads d next) (hrest : Builds step next members last) :
    Builds step draft ((key, d) :: members) last

/-- A member is read into the draft as its key says. -/
theorem member_tokens {step : δ → String → Except Fault (Reader δ)} {draft next : δ}
    {key : String} {value : Reader δ} {d : Datum} (hstep : step draft key = .ok value)
    (hvalue : value.Reads d next) (rest : List Token) :
    member step draft (.text key :: .colon :: (d.tokens ++ rest)) = .ok (next, rest) := by
  unfold member
  show (step draft key >>= _) = _
  rw [hstep]
  exact hvalue rest

/-- Behind a comma, a key stands at the next place of an object. -/
theorem nextPlace_comma_key (key : String) (rest : List Token) :
    nextPlace .closeBrace (.comma :: .text key :: rest) = .ok (some (.text key :: rest)) := rfl

/-- The members after the first are read up to the closing brace. -/
theorem moreMembers_members {step : δ → String → Except Fault (Reader δ)} {draft last : δ}
    {members : List (String × Datum)} (h : Builds step draft members last) (rest : List Token) :
    moreMembers step draft ((Datum.memberTokens members).flatMap (fun part => .comma :: part) ++
      .closeBrace :: rest) = .ok (last, rest) := by
  induction h with
  | nil draft =>
    rw [Datum.memberTokens, List.flatMap_nil, List.nil_append, moreMembers]
    split
    · next hplace =>
      rw [nextPlace_close] at hplace
      cases hplace
    · rfl
    · next hplace =>
      rw [nextPlace_close] at hplace
      cases hplace
  | @cons draft next last key value d members hstep hvalue _ ih =>
    rw [Datum.memberTokens, List.flatMap_cons, List.append_assoc, List.cons_append,
      List.cons_append, List.cons_append, moreMembers]
    split
    · next hplace =>
      rw [nextPlace_comma_key] at hplace
      cases hplace
    · next hplace =>
      rw [nextPlace_comma_key] at hplace
      cases hplace
    · next place hplace =>
      rw [nextPlace_comma_key, Except.ok.injEq, Option.some.injEq] at hplace
      subst hplace
      split
      · next hmember =>
        rw [member_tokens hstep hvalue] at hmember
        cases hmember
      · next hmember =>
        rw [member_tokens hstep hvalue, Except.ok.injEq, Prod.mk.injEq] at hmember
        obtain ⟨rfl, rfl⟩ := hmember
        exact ih

/-- An object is read as the draft that its members build. -/
theorem reads_object {step : δ → String → Except Fault (Reader δ)} {empty last : δ}
    {members : List (String × Datum)} (h : Builds step empty members last) :
    (object empty step).Reads (.object members) last := by
  intro rest
  rw [Datum.tokens]
  show Reader.members step empty
    (separate (Datum.memberTokens members) ++ [.closeBrace] ++ rest) = _
  rw [List.append_assoc, List.singleton_append]
  cases h with
  | nil => rfl
  | @cons _ next _ key value d others hstep hvalue hrest =>
    have hfirst (rest : List Token) :
        firstPlace .closeBrace (.text key :: rest) = .ok (some (.text key :: rest)) := rfl
    rw [Datum.memberTokens, separate, List.append_assoc, List.cons_append, List.cons_append]
    simp only [Reader.members, hfirst, member_tokens hstep hvalue, moreMembers_members hrest]

/-! ## Any value -/

/-- Reads a value that is no array and no object. -/
def scalar : Reader Datum where
  read
    | .null :: rest => .ok (.null, rest)
    | .truth b :: rest => .ok (.truth b, rest)
    | .number (.count n) :: rest => .ok (.count n, rest)
    | .text s :: rest => .ok (.text s, rest)
    | ts => .error (unexpected ts)
  shrinks h := by
    split at h
    all_goals
      simp only [Except.ok.injEq, Prod.mk.injEq, reduceCtorEq] at h
      try simp [← h.2]

/-- Reads any value with no more than some number of brackets around each other. -/
def datum : Nat → Reader Datum
  | 0 => scalar
  | depth + 1 => {
      read := fun
        | .openBracket :: ts => ((list (datum depth)).map .array).read (.openBracket :: ts)
        | .openBrace :: ts => ((object [] fun members key =>
            .ok ((datum depth).map fun value => members ++ [(key, value)])).map .object).read
              (.openBrace :: ts)
        | ts => scalar.read ts
      shrinks := by
        intro ts a rest h
        split at h
        · exact Reader.shrinks _ h
        · exact Reader.shrinks _ h
        · exact Reader.shrinks _ h }

end Reader

/-- Whether a value has no more than some number of brackets around each other. -/
def Datum.Within : Nat → Datum → Prop
  | depth + 1, array items => ∀ item ∈ items, item.Within depth
  | depth + 1, object members => ∀ member ∈ members, member.2.Within depth
  | 0, array _ | 0, object _ => False
  | _, null | _, truth _ | _, count _ | _, text _ => True

/-- A value is read as itself. -/
theorem Reader.reads_datum {depth : Nat} {d : Datum} (h : d.Within depth) :
    (datum depth).Reads d d := by
  induction depth generalizing d with
  | zero =>
    cases d with
    | null => exact fun _ => rfl
    | truth b => exact fun _ => rfl
    | count n => exact fun _ => rfl
    | text s => exact fun _ => rfl
    | array items => exact absurd h (by simp [Datum.Within])
    | object members => exact absurd h (by simp [Datum.Within])
  | succ depth ih =>
    cases d with
    | null => exact fun _ => rfl
    | truth b => exact fun _ => rfl
    | count n => exact fun _ => rfl
    | text s => exact fun _ => rfl
    | array items =>
      have hitems : List.Forall₂ (datum depth).Reads items items :=
        List.forall₂_same.2 fun item hitem => ih (h item hitem)
      exact fun rest => reads_map Datum.array (reads_list hitems) rest
    | object members =>
      -- The members read so far stand before those to come.
      have hmembers : ∀ done, Builds (fun members key =>
          .ok ((datum depth).map fun value => members ++ [(key, value)])) done members
            (done ++ members) := by
        intro done
        induction members generalizing done with
        | nil =>
          rw [List.append_nil]
          exact .nil done
        | cons member members ihmembers =>
          have hvalue := ih (h member List.mem_cons_self)
          have hrest := ihmembers (fun m hm => h m (List.mem_cons_of_mem _ hm))
            (done ++ [member])
          rw [List.append_assoc, List.singleton_append] at hrest
          exact .cons rfl (reads_map (fun value => done ++ [(member.1, value)]) hvalue) hrest
      exact fun rest => reads_map Datum.object (reads_object (hmembers [])) rest

end FheSolidity.Json
