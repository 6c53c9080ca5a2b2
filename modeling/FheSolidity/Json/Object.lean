import FheSolidity.Json.Reader

/-!
# Readers of objects

The members of an object come in any order, so an object is read into a draft that each member adds
to. A function says, from the draft so far and a key, how the member's value is read into the next
draft; it refuses a key that is unknown or was read before, and does so before the colon is looked
at.
-/

namespace FheSolidity.Json

namespace Reader

/-- Reads a key. -/
def readKey : List Token → Except Fault (String × List Token)
  | [] => .error .truncated
  | .text key :: ts => .ok (key, ts)
  | .brokenText fault :: _ => .error fault
  | _ :: _ => .error .malformed

/-- Reads a member into a draft. -/
def member {δ : Type} (step : δ → String → Except Fault (Reader δ)) (draft : δ)
    (ts : List Token) : Except Fault (δ × List Token) := do
  let (key, rest) ← readKey ts
  let value ← step draft key
  let rest ← readToken .colon rest
  value.read rest

theorem length_readKey {ts rest : List Token} {key : String} (h : readKey ts = .ok (key, rest)) :
    rest.length < ts.length := by
  unfold readKey at h
  grind

theorem length_member {δ : Type} {step : δ → String → Except Fault (Reader δ)} {draft next : δ}
    {ts rest : List Token} (h : member step draft ts = .ok (next, rest)) :
    rest.length < ts.length := by
  simp only [member, bind, Except.bind] at h
  grind [→ length_readKey, → length_readToken, → Reader.shrinks]

/-- Reads the rest of an object after one of its members. -/
def moreMembers {δ : Type} (step : δ → String → Except Fault (Reader δ)) (draft : δ)
    (ts : List Token) : Except Fault (δ × List Token) :=
  match hplace : nextPlace .closeBrace ts with
  | .error fault => .error fault
  | .ok none => .ok (draft, ts.tail)
  | .ok (some place) =>
    match hmember : member step draft place with
    | .error fault => .error fault
    | .ok (next, rest) =>
      have := length_nextPlace hplace
      have := length_member hmember
      moreMembers step next rest
termination_by ts.length

/-- Reads an object after its opening brace. -/
def members {δ : Type} (step : δ → String → Except Fault (Reader δ)) (draft : δ)
    (ts : List Token) : Except Fault (δ × List Token) :=
  match firstPlace .closeBrace ts with
  | .error fault => .error fault
  | .ok none => .ok (draft, ts.tail)
  | .ok (some place) =>
    match member step draft place with
    | .error fault => .error fault
    | .ok (next, rest) => moreMembers step next rest

theorem length_moreMembers {δ : Type} {step : δ → String → Except Fault (Reader δ)}
    {draft last : δ} {ts rest : List Token} (h : moreMembers step draft ts = .ok (last, rest)) :
    rest.length < ts.length := by
  fun_induction moreMembers step draft ts with
  | case1 => simp at h
  | case2 draft ts hplace =>
    simp only [Except.ok.injEq, Prod.mk.injEq] at h
    exact h.2 ▸ length_tail_nextPlace hplace
  | case3 => simp at h
  | case4 draft ts place hplace next left hmember _ _ ih =>
    have := length_nextPlace hplace
    have := length_member hmember
    have := ih h
    omega

theorem length_members {δ : Type} {step : δ → String → Except Fault (Reader δ)} {draft last : δ}
    {ts rest : List Token} (h : members step draft ts = .ok (last, rest)) :
    rest.length < ts.length := by
  unfold members at h
  grind [→ length_tail_firstPlace, → length_firstPlace, → length_member, → length_moreMembers]

/-- Reads an object into a draft that starts empty. -/
def object {δ : Type} (empty : δ) (step : δ → String → Except Fault (Reader δ)) : Reader δ where
  read
    | .openBrace :: ts => members step empty ts
    | ts => .error (unexpected ts)
  shrinks h := by
    split at h
    · exact Nat.lt_succ_of_lt (length_members h)
    · exact nomatch h

end Reader

end FheSolidity.Json
