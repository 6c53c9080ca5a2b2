import FheSolidity.Json.Number
import FheSolidity.Json.Quoted

/-!
# Tokens of JSON

A text is cut into tokens from left to right. What starts like a string, a number or a word but is
none becomes a broken token, which ends the list: whether its fault is the document's depends on
whether such a token was asked for at that place.
-/

namespace FheSolidity.Json

/-- A token of JSON. -/
inductive Token
  | openBracket
  | closeBracket
  | openBrace
  | closeBrace
  | comma
  | colon
  | null
  | truth (value : Bool)
  | number (value : Number)
  | text (value : String)
  /-- Characters that start with a quote but are no string. -/
  | brokenText (fault : Fault)
  /-- Characters without a quote that are no token. -/
  | broken (fault : Fault)
  deriving DecidableEq, Repr

/-- Whether a character is a blank of JSON. -/
def isJsonBlank (c : Char) : Bool :=
  c == ' ' || c == '\t' || c == '\n' || c == '\r'

/-- Reads given characters off the front of a text. -/
def readWord : List Char → List Char → Except Fault (List Char)
  | [], text => .ok text
  | _ :: _, [] => .error .truncated
  | w :: word, c :: text => if w = c then readWord word text else .error .malformed

/-- A token that was read with what is left of the text, or the broken token in its place with
nothing left. -/
def orBroken {α : Type} (token : α → Token) (broken : Fault → Token) :
    Except Fault (α × List Char) → Token × List Char
  | .ok (a, rest) => (token a, rest)
  | .error fault => (broken fault, [])

/-- The token that a single character is. -/
def punctuation? (c : Char) : Option Token :=
  [('[', Token.openBracket), (']', .closeBracket), ('\x7b', .openBrace), ('\x7d', .closeBrace),
    (',', .comma), (':', .colon)].lookup c

/-- The word that starts with a character: what follows the character, and the token it is. -/
def wordFrom? (c : Char) : Option (String × Token) :=
  [('n', ("ull", Token.null)), ('t', ("rue", .truth true)), ('f', ("alse", .truth false))].lookup c

/-- The token at the front of a text whose first character is not blank. -/
def firstToken (c : Char) (text : List Char) : Token × List Char :=
  match punctuation? c, wordFrom? c with
  | some token, _ => (token, text)
  | none, some (word, token) =>
    match readWord word.toList text with
    | .ok rest => (token, rest)
    | .error fault => (.broken fault, [])
  | none, none =>
    if c = '"' then orBroken (fun cs => .text (String.ofList cs)) .brokenText (readQuoted text)
    else if c = '-' then orBroken .number .broken (readUnsigned true text)
    else if c.isDigit then orBroken .number .broken (readUnsigned false (c :: text))
    else (.broken .malformed, [])

/-! Every token takes at least one character. -/

theorem length_readWord {word text rest : List Char} (h : readWord word text = .ok rest) :
    rest.length ≤ text.length := by
  fun_induction readWord word text with grind

theorem length_orBroken {α : Type} {token : α → Token} {broken : Fault → Token} {n : Nat}
    {read : Except Fault (α × List Char)} (h : ∀ a rest, read = .ok (a, rest) → rest.length ≤ n) :
    (orBroken token broken read).2.length ≤ n := by
  unfold orBroken
  split
  · next a rest => exact h a rest rfl
  · simp

theorem length_firstToken (c : Char) (text : List Char) :
    (firstToken c text).2.length ≤ text.length := by
  unfold firstToken
  split
  · exact Nat.le_refl _
  · split
    · next h => exact length_readWord h
    · simp
  · split
    · exact length_orBroken fun _ _ h => Nat.le_of_lt (length_readQuoted h)
    · split
      · exact length_orBroken fun _ _ h => Nat.le_of_lt (length_readUnsigned h)
      · split
        · exact length_orBroken fun _ _ h => Nat.le_of_lt_succ (length_readUnsigned h)
        · simp

/-- The tokens of a text. -/
def tokens (text : List Char) : List Token :=
  match text with
  | [] => []
  | c :: rest =>
    if isJsonBlank c then tokens rest
    else
      have := length_firstToken c rest
      (firstToken c rest).1 :: tokens (firstToken c rest).2
termination_by text.length

end FheSolidity.Json
