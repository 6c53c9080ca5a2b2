import FheSolidity.Json.Fault

/-!
# Quoted text in JSON

`quote` writes a text between double quotes, escaping the quote, the backslash and the control
characters below the space and nothing else. `readQuoted` reads any JSON string: every character
may be escaped by its UTF-16 code units, a pair of surrogates standing for one character.
-/

namespace FheSolidity.Json

/-! ## Writing -/

/-- The lower hexadecimal digit of a number below sixteen. -/
def hexDigit (n : Nat) : Char :=
  Nat.digitChar n

/-- How one character is written between the quotes. -/
def escape (c : Char) : List Char :=
  if c = '"' then ['\\', '"']
  else if c = '\\' then ['\\', '\\']
  else if c = '\x08' then ['\\', 'b']
  else if c = '\t' then ['\\', 't']
  else if c = '\n' then ['\\', 'n']
  else if c = '\x0c' then ['\\', 'f']
  else if c = '\r' then ['\\', 'r']
  else if c.toNat < 0x20 then
    ['\\', 'u', '0', '0', hexDigit (c.toNat / 16), hexDigit (c.toNat % 16)]
  else [c]

/-- A text as a JSON string. -/
def quote (text : String) : String :=
  "\"" ++ String.ofList (text.toList.flatMap escape) ++ "\""

/-! ## Reading -/

/-- The character that a backslash and a letter stand for. -/
def shortEscape? (c : Char) : Option Char :=
  [('"', '"'), ('\\', '\\'), ('/', '/'), ('b', '\x08'), ('f', '\x0c'), ('n', '\n'), ('r', '\r'),
    ('t', '\t')].lookup c

/-- The value of a hexadecimal digit. -/
def hexValue? (c : Char) : Option Nat :=
  if '0' ≤ c && c ≤ '9' then some (c.toNat - '0'.toNat)
  else if 'a' ≤ c && c ≤ 'f' then some (c.toNat - 'a'.toNat + 10)
  else if 'A' ≤ c && c ≤ 'F' then some (c.toNat - 'A'.toNat + 10)
  else none

/-- The number that four hexadecimal digits write. -/
def hexNumber? (a b c d : Char) : Option Nat := do
  return (((← hexValue? a) * 16 + (← hexValue? b)) * 16 + (← hexValue? c)) * 16 + (← hexValue? d)

/-- Reads the four hexadecimal digits of a code unit. Where they are not there, the text is
truncated if fewer than four bytes are left, and malformed otherwise. -/
def readUnit (text : List Char) : Except Fault (Nat × List Char) :=
  let fault := if (String.ofList (text.take 4)).utf8ByteSize < 4 then Fault.truncated else .malformed
  match text with
  | a :: b :: c :: d :: rest =>
    match hexNumber? a b c d with
    | some n => .ok (n, rest)
    | none => .error fault
  | _ => .error fault

/-- Reads the escape of the second surrogate of a pair, and pairs it with the first. -/
def readLowSurrogate (high : Nat) : List Char → Except Fault (Char × List Char)
  | [] => .error .truncated
  | ['\\'] => .error .truncated
  | '\\' :: 'u' :: text =>
    match readUnit text with
    | .error fault => .error fault
    | .ok (low, rest) =>
      if 0xDC00 ≤ low && low < 0xE000 then
        .ok (Char.ofNat (0x10000 + (high - 0xD800) * 0x400 + (low - 0xDC00)), rest)
      else .error .malformed
  | _ => .error .malformed

/-- Reads the character that one code unit, or a pair of surrogates, stands for. -/
def readUnits (text : List Char) : Except Fault (Char × List Char) :=
  match readUnit text with
  | .error fault => .error fault
  | .ok (unit, rest) =>
    if unit < 0xD800 || 0xE000 ≤ unit then .ok (Char.ofNat unit, rest)
    else if 0xDC00 ≤ unit then .error .malformed
    else readLowSurrogate unit rest

/-- Reads what stands after a backslash. -/
def readEscape : List Char → Except Fault (Char × List Char)
  | [] => .error .truncated
  | c :: rest =>
    match shortEscape? c with
    | some d => .ok (d, rest)
    | none => if c = 'u' then readUnits rest else .error .malformed

/-! A reader leaves less than it was given, which is why reading a string comes to an end. -/

theorem length_readUnit {text rest : List Char} {n : Nat} (h : readUnit text = .ok (n, rest)) :
    rest.length < text.length := by
  unfold readUnit at h
  grind

theorem length_readLowSurrogate {high : Nat} {text rest : List Char} {c : Char}
    (h : readLowSurrogate high text = .ok (c, rest)) : rest.length < text.length := by
  unfold readLowSurrogate at h
  split at h
  · simp at h
  · simp at h
  · split at h
    · simp at h
    · next hunit =>
      have := length_readUnit hunit
      split at h
      · simp only [Except.ok.injEq, Prod.mk.injEq] at h
        simp only [List.length_cons, ← h.2]
        omega
      · simp at h
  · simp at h

theorem length_readUnits {text rest : List Char} {c : Char} (h : readUnits text = .ok (c, rest)) :
    rest.length < text.length := by
  unfold readUnits at h
  split at h
  · simp at h
  · next hunit =>
    have := length_readUnit hunit
    split at h
    · simp only [Except.ok.injEq, Prod.mk.injEq] at h
      exact h.2 ▸ this
    · split at h
      · simp at h
      · have := length_readLowSurrogate h
        omega

theorem length_readEscape {text rest : List Char} {c : Char}
    (h : readEscape text = .ok (c, rest)) : rest.length < text.length := by
  cases text with
  | nil => simp [readEscape] at h
  | cons d text =>
    simp only [readEscape] at h
    split at h
    · simp only [Except.ok.injEq, Prod.mk.injEq] at h
      simp [← h.2]
    · split at h
      · have := length_readUnits h
        simp only [List.length_cons]
        omega
      · simp at h

/-- Reads a string from after its opening quote to its closing quote. -/
def readQuoted (text : List Char) : Except Fault (List Char × List Char) :=
  match text with
  | [] => .error .truncated
  | c :: rest =>
    if c = '"' then .ok ([], rest)
    else if c = '\\' then
      match h : readEscape rest with
      | .error fault => .error fault
      | .ok (d, rest') =>
        have := length_readEscape h
        match readQuoted rest' with
        | .error fault => .error fault
        | .ok (ds, rest'') => .ok (d :: ds, rest'')
    else if c.toNat < 0x20 then .error .malformed
    else
      match readQuoted rest with
      | .error fault => .error fault
      | .ok (ds, rest') => .ok (c :: ds, rest')
termination_by text.length
decreasing_by all_goals grind

theorem length_readQuoted {text cs rest : List Char} (h : readQuoted text = .ok (cs, rest)) :
    rest.length < text.length := by
  fun_induction readQuoted text generalizing cs with grind [length_readEscape]

end FheSolidity.Json
