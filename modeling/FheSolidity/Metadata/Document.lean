import FheSolidity.Json.Object
import FheSolidity.Metadata.Entry

/-!
# Metadata documents

A document is an array of entries. An entry is an object whose members come in any order, or an
array of the same values by position; the name and the inputs must be there, and the rest may be
left out. The whole document is read before any entry is resolved.
-/

namespace FheSolidity

open Json

namespace Entry

/-! ## Entries as objects -/

/-- The members of an entry that have been read. -/
structure Draft where
  /-- The member `name`. -/
  name : Option String := none
  /-- The member `inputs`. -/
  inputs : Option (List String) := none
  /-- The member `returns`, which may be null. -/
  returns : Option (Option String) := none
  /-- The member `boolean_math`. -/
  booleanMath : Option Bool := none
  /-- The member `same_type`. -/
  sameType : Option Bool := none
  /-- The member `arity`, which may be null. -/
  arity : Option (Option Nat) := none

namespace Draft

/-- Reads a member that has not been read before. -/
def once {α : Type} (slot : Option α) (value : Reader α) (put : α → Draft) :
    Except Fault (Reader Draft) :=
  match slot with
  | some _ => .error .mistyped
  | none => .ok (value.map put)

/-- How the member with a key is read. -/
def step (draft : Draft) (key : String) : Except Fault (Reader Draft) :=
  if key = "name" then once draft.name .text fun x => { draft with name := some x }
  else if key = "inputs" then
    once draft.inputs (.list .text) fun x => { draft with inputs := some x }
  else if key = "returns" then
    once draft.returns (.orNull .text) fun x => { draft with returns := some x }
  else if key = "boolean_math" then
    once draft.booleanMath .truth fun x => { draft with booleanMath := some x }
  else if key = "same_type" then
    once draft.sameType .truth fun x => { draft with sameType := some x }
  else if key = "arity" then
    once draft.arity (.orNull .count) fun x => { draft with arity := some x }
  else .error .mistyped

/-- The entry with the members of a draft, if those that have to be there are. -/
def entry (draft : Draft) : Except Fault Entry :=
  match draft.name, draft.inputs with
  | some name, some inputs =>
    .ok ⟨name, inputs, draft.returns.join, draft.booleanMath.getD false,
      draft.sameType.getD false, draft.arity.join⟩
  | _, _ => .error .mistyped

end Draft

/-- Reads an entry that is an object. -/
def byName : Reader Entry :=
  (Reader.object { } Draft.step).check Draft.entry

/-! ## Entries as arrays -/

/-- Reads an element that has to be there, at the place that was found for it. -/
def required {α : Type} (value : Reader α) :
    Except Fault (Option (List Token)) → Except Fault (α × List Token)
  | .error fault => .error fault
  | .ok none => .error .mistyped
  | .ok (some place) => value.read place

/-- Reads the next element if there is one, and otherwise stays before the closing bracket. -/
def optional {α : Type} (value : Reader α) (default : α) (ts : List Token) :
    Except Fault (α × List Token) :=
  match nextPlace .closeBracket ts with
  | .error fault => .error fault
  | .ok none => .ok (default, ts)
  | .ok (some place) => value.read place

/-- Reads an entry that is an array, after its opening bracket. -/
def readByPosition (ts : List Token) : Except Fault (Entry × List Token) := do
  let (name, ts) ← required .text (firstPlace .closeBracket ts)
  let (inputs, ts) ← required (.list .text) (nextPlace .closeBracket ts)
  let (returns, ts) ← optional (.orNull .text) none ts
  let (booleanMath, ts) ← optional .truth false ts
  let (sameType, ts) ← optional .truth false ts
  let (arity, ts) ← optional (.orNull .count) none ts
  let ts ← readToken .closeBracket ts
  return (⟨name, inputs, returns, booleanMath, sameType, arity⟩, ts)

theorem length_required_firstPlace {α : Type} {value : Reader α} {ts rest : List Token} {a : α}
    (h : required value (firstPlace .closeBracket ts) = .ok (a, rest)) :
    rest.length < ts.length := by
  unfold required at h
  grind [→ length_firstPlace, → Reader.shrinks]

theorem length_required_nextPlace {α : Type} {value : Reader α} {ts rest : List Token} {a : α}
    (h : required value (nextPlace .closeBracket ts) = .ok (a, rest)) :
    rest.length < ts.length := by
  unfold required at h
  grind [→ length_nextPlace, → Reader.shrinks]

theorem length_optional {α : Type} {value : Reader α} {default a : α} {ts rest : List Token}
    (h : optional value default ts = .ok (a, rest)) : rest.length ≤ ts.length := by
  unfold optional at h
  grind [→ length_nextPlace, → Reader.shrinks]

theorem length_readByPosition {ts rest : List Token} {entry : Entry}
    (h : readByPosition ts = .ok (entry, rest)) : rest.length < ts.length := by
  obtain ⟨⟨_, _⟩, hname, h⟩ := bind_eq_ok.1 h
  obtain ⟨⟨_, _⟩, hinputs, h⟩ := bind_eq_ok.1 h
  obtain ⟨⟨_, _⟩, hreturns, h⟩ := bind_eq_ok.1 h
  obtain ⟨⟨_, _⟩, hmath, h⟩ := bind_eq_ok.1 h
  obtain ⟨⟨_, _⟩, hsame, h⟩ := bind_eq_ok.1 h
  obtain ⟨⟨_, _⟩, harity, h⟩ := bind_eq_ok.1 h
  obtain ⟨_, hclose, h⟩ := bind_eq_ok.1 h
  have := length_required_firstPlace hname
  have := length_required_nextPlace hinputs
  have := length_optional hreturns
  have := length_optional hmath
  have := length_optional hsame
  have := length_optional harity
  have := length_readToken hclose
  simp only [pure, Except.pure, Except.ok.injEq, Prod.mk.injEq] at h
  rw [← h.2]
  omega

/-! ## Documents -/

/-- Reads an entry. -/
def reader : Reader Entry where
  read
    | .openBracket :: ts => readByPosition ts
    | ts => byName.read ts
  shrinks h := by
    split at h
    · exact Nat.lt_succ_of_lt (length_readByPosition h)
    · exact byName.shrinks h

end Entry

/-- The entries of a metadata document. -/
def readEntries (text : String) : Except MetadataFault (List Entry) :=
  (Reader.document (.list Entry.reader) text).mapError .unreadable

/-- The operations that a metadata document describes. -/
def readMetadata (text : String) : Except MetadataFault (List Operation) := do
  let entries ← readEntries text
  entries.mapM Entry.resolve

end FheSolidity
