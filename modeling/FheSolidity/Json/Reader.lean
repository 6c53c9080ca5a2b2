import FheSolidity.Json.Token

/-!
# Typed readers of JSON

A reader takes a value of one shape off the front of a list of tokens. It stops at the first token
that cannot go on: a broken token where a value is expected passes on its own fault, any other
token there is mistyped if it starts a value and malformed if it does not, and a token in the place
of punctuation is malformed. Every reader leaves fewer tokens than it was given, so arrays and
objects of any length can be read with it.
-/

namespace FheSolidity.Json

/-- The fault of a document with this token where a value of another shape is expected. -/
def Token.fault : Token → Fault
  | closeBracket | closeBrace | comma | colon => .malformed
  | brokenText fault | broken fault => fault
  | openBracket | openBrace | null | truth _ | number _ | text _ => .mistyped

/-- The fault of a document that goes on with these tokens where a value of another shape is
expected. -/
def unexpected : List Token → Fault
  | [] => .truncated
  | token :: _ => token.fault

/-- A reader of values of one shape. -/
structure Reader (α : Type) where
  /-- Takes a value off the front of some tokens, and gives the tokens that are left. -/
  read : List Token → Except Fault (α × List Token)
  /-- Fewer tokens are left than were given. -/
  shrinks : ∀ {ts a rest}, read ts = .ok (a, rest) → rest.length < ts.length

/-- Two steps in a row succeed if both do. -/
theorem bind_eq_ok {α β : Type} {x : Except Fault α} {f : α → Except Fault β} {b : β} :
    (x >>= f) = .ok b ↔ ∃ a, x = .ok a ∧ f a = .ok b := by
  cases x <;> simp [bind, Except.bind]

/-- Reads this very token. -/
def readToken (expected : Token) : List Token → Except Fault (List Token)
  | [] => .error .truncated
  | token :: rest => if token = expected then .ok rest else .error .malformed

theorem length_readToken {expected : Token} {ts rest : List Token}
    (h : readToken expected ts = .ok rest) : rest.length < ts.length := by
  unfold readToken at h
  grind

/-! ## Places in a list

Between the brackets of an array, or the braces of an object, a value follows the opening token or
a comma, and no comma stands before the closing token.
-/

/-- The place of the first value of a list that has just been opened, unless it is closed. -/
def firstPlace (close : Token) : List Token → Except Fault (Option (List Token))
  | [] => .error .truncated
  | token :: rest => .ok (if token = close then none else some (token :: rest))

/-- The place of the next value of a list after one of its values, unless the list is closed. -/
def nextPlace (close : Token) : List Token → Except Fault (Option (List Token))
  | [] => .error .truncated
  | token :: rest =>
    if token = close then .ok none
    else if token = .comma then
      match rest with
      | [] => .error .truncated
      | next :: others => if next = close then .error .malformed else .ok (some (next :: others))
    else .error .malformed

theorem length_firstPlace {close : Token} {ts place : List Token}
    (h : firstPlace close ts = .ok (some place)) : place.length ≤ ts.length := by
  unfold firstPlace at h
  grind

theorem length_nextPlace {close : Token} {ts place : List Token}
    (h : nextPlace close ts = .ok (some place)) : place.length < ts.length := by
  unfold nextPlace at h
  grind

theorem length_tail_firstPlace {close : Token} {ts : List Token}
    (h : firstPlace close ts = .ok none) : ts.tail.length < ts.length := by
  unfold firstPlace at h
  grind

theorem length_tail_nextPlace {close : Token} {ts : List Token}
    (h : nextPlace close ts = .ok none) : ts.tail.length < ts.length := by
  unfold nextPlace at h
  grind

namespace Reader

/-! ## Scalars -/

/-- Reads a string. -/
def text : Reader String where
  read
    | .text s :: rest => .ok (s, rest)
    | ts => .error (unexpected ts)
  shrinks h := by
    split at h
    · simp only [Except.ok.injEq, Prod.mk.injEq] at h
      simp [← h.2]
    · exact nomatch h

/-- Reads a truth value. -/
def truth : Reader Bool where
  read
    | .truth b :: rest => .ok (b, rest)
    | ts => .error (unexpected ts)
  shrinks h := by
    split at h
    · simp only [Except.ok.injEq, Prod.mk.injEq] at h
      simp [← h.2]
    · exact nomatch h

/-- Reads an unsigned integer of 64 bits. -/
def count : Reader Nat where
  read
    | .number (.count n) :: rest => .ok (n, rest)
    | ts => .error (unexpected ts)
  shrinks h := by
    split at h
    · simp only [Except.ok.injEq, Prod.mk.injEq] at h
      simp [← h.2]
    · exact nomatch h

/-- Reads a null. -/
def null : Reader Unit where
  read
    | .null :: rest => .ok ((), rest)
    | ts => .error (unexpected ts)
  shrinks h := by
    split at h
    · simp only [Except.ok.injEq, Prod.mk.injEq] at h
      simp [← h.2]
    · exact nomatch h

/-- Reads a null, or else a value. -/
def orNull {α : Type} (value : Reader α) : Reader (Option α) where
  read ts :=
    match null.read ts with
    | .ok (_, rest) => .ok (none, rest)
    | .error _ => (value.read ts).map fun (a, rest) => (some a, rest)
  shrinks {ts a rest} h := by
    split at h
    · next hnull =>
      simp only [Except.ok.injEq, Prod.mk.injEq] at h
      exact h.2 ▸ null.shrinks hnull
    · cases hvalue : value.read ts with
      | error fault => simp [hvalue, Except.map] at h
      | ok read =>
        simp only [hvalue, Except.map, Except.ok.injEq, Prod.mk.injEq] at h
        exact h.2 ▸ value.shrinks hvalue

/-- Reads a value and goes on with what a function makes of it, which may be a fault. -/
def check {α β : Type} (value : Reader α) (f : α → Except Fault β) : Reader β where
  read ts :=
    match value.read ts with
    | .error fault => .error fault
    | .ok (a, rest) => (f a).map fun b => (b, rest)
  shrinks {ts b rest} h := by
    split at h
    · simp at h
    · next a left hvalue =>
      cases hf : f a with
      | error fault => simp [hf, Except.map] at h
      | ok b =>
        simp only [hf, Except.map, Except.ok.injEq, Prod.mk.injEq] at h
        exact h.2 ▸ value.shrinks hvalue

/-- Reads a value and applies a function to it. -/
def map {α β : Type} (value : Reader α) (f : α → β) : Reader β :=
  value.check fun a => .ok (f a)

/-! ## Arrays -/

/-- Reads the rest of an array after one of its elements. -/
def moreElements {α : Type} (item : Reader α) (ts : List Token) :
    Except Fault (List α × List Token) :=
  match hplace : nextPlace .closeBracket ts with
  | .error fault => .error fault
  | .ok none => .ok ([], ts.tail)
  | .ok (some place) =>
    match hitem : item.read place with
    | .error fault => .error fault
    | .ok (a, rest) =>
      have := length_nextPlace hplace
      have := item.shrinks hitem
      match moreElements item rest with
      | .error fault => .error fault
      | .ok (as, rest) => .ok (a :: as, rest)
termination_by ts.length

/-- Reads an array after its opening bracket. -/
def elements {α : Type} (item : Reader α) (ts : List Token) : Except Fault (List α × List Token) :=
  match firstPlace .closeBracket ts with
  | .error fault => .error fault
  | .ok none => .ok ([], ts.tail)
  | .ok (some place) =>
    match item.read place with
    | .error fault => .error fault
    | .ok (a, rest) =>
      match moreElements item rest with
      | .error fault => .error fault
      | .ok (as, rest) => .ok (a :: as, rest)

theorem length_moreElements {α : Type} {item : Reader α} {ts rest : List Token} {as : List α}
    (h : moreElements item ts = .ok (as, rest)) : rest.length < ts.length := by
  fun_induction moreElements item ts generalizing as rest with
  | case1 => simp at h
  | case2 ts hplace =>
    simp only [Except.ok.injEq, Prod.mk.injEq] at h
    exact h.2 ▸ length_tail_nextPlace hplace
  | case3 => simp at h
  | case4 => simp at h
  | case5 ts place hplace a left hitem _ _ as' left' hmore ih =>
    simp only [Except.ok.injEq, Prod.mk.injEq] at h
    have := length_nextPlace hplace
    have := item.shrinks hitem
    have := ih hmore
    rw [← h.2]
    omega

theorem length_elements {α : Type} {item : Reader α} {ts rest : List Token} {as : List α}
    (h : elements item ts = .ok (as, rest)) : rest.length < ts.length := by
  unfold elements at h
  grind [→ length_tail_firstPlace, → length_firstPlace, → Reader.shrinks, → length_moreElements]

/-- Reads an array of values of one shape. -/
def list {α : Type} (item : Reader α) : Reader (List α) where
  read
    | .openBracket :: ts => elements item ts
    | ts => .error (unexpected ts)
  shrinks h := by
    split at h
    · exact Nat.lt_succ_of_lt (length_elements h)
    · exact nomatch h

/-! ## Documents -/

/-- Reads a text that holds one value and nothing after it. -/
def document {α : Type} (value : Reader α) (text : String) : Except Fault α :=
  match value.read (tokens text.toList) with
  | .error fault => .error fault
  | .ok (a, []) => .ok a
  | .ok (_, _ :: _) => .error .malformed

end Reader

end FheSolidity.Json
