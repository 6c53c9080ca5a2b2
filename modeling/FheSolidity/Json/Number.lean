import FheSolidity.Json.Fault

/-!
# Numbers in JSON

A number is read up to its last digit. Only its kind matters here: an unsigned integer literal
below `2^64` is a count, and every other number is just a number. A number too large for a double
is no number at all; whether it is too large is decided on at most 64 bits of its leading digits.
-/

namespace FheSolidity.Json

/-- What a number literal denotes. -/
inductive Number
  /-- A literal of digits alone that fits 64 bits. -/
  | count (n : Nat)
  /-- A literal with a sign, a fraction or an exponent, or of more than 64 bits. -/
  | other
  deriving DecidableEq, Repr

/-- The value of a decimal digit. -/
def digitValue (c : Char) : Nat :=
  c.toNat - '0'.toNat

/-- Takes digits off the front of a list into a number for as long as it fits 64 bits. The result
is the number and the digits that are left. -/
def absorb (n : Nat) : List Char → Nat × List Char
  | [] => (n, [])
  | c :: digits =>
    if n * 10 + digitValue c < 2 ^ 64 then absorb (n * 10 + digitValue c) digits
    else (n, c :: digits)

/-- A natural number to the nearest one of 53 significant bits, a tie going to the even one. -/
def roundToDouble (n : Nat) : Nat :=
  let unit := Nat.pow 2 (n.log2 - 52)
  let quotient := n / unit
  let twice := 2 * (n % unit)
  if twice > unit || (twice == unit && quotient % 2 == 1) then (quotient + 1) * unit
  else quotient * unit

/-- Whether `significand * 10 ^ exponent`, with both factors rounded to doubles, is beyond all
doubles. -/
def exceedsDouble (significand : Nat) (exponent : Int) : Bool :=
  significand != 0 && exponent > 0 &&
    (exponent > 308 ||
      roundToDouble significand * roundToDouble (Nat.pow 10 exponent.toNat) ≥
        Nat.pow 2 1024 - Nat.pow 2 970)

/-- The parts of a number literal. -/
structure Literal where
  /-- Whether it starts with a minus sign. -/
  negative : Bool
  /-- The digits before the point. -/
  whole : List Char
  /-- The digits after the point, if there is a point. -/
  fraction : Option (List Char)
  /-- The sign and the digits of the exponent, if there is one. -/
  exponent : Option (Bool × List Char)

/-- What a literal denotes, if it is not too large. -/
def Literal.number (literal : Literal) : Except Fault Number :=
  let (significand, beyond) := absorb 0 literal.whole
  let fraction := literal.fraction.getD []
  let (significand', dropped) := absorb significand fraction
  let shift : Int := match literal.exponent with
    | none => 0
    | some (minus, digits) =>
      let e := digits.foldl (fun n c => n * 10 + digitValue c) 0
      if minus then -(e : Int) else e
  let exponent := (beyond.length : Int) - ((fraction.length : Int) - dropped.length) + shift
  if exceedsDouble significand' exponent then .error .malformed
  else if literal.negative || literal.fraction.isSome || literal.exponent.isSome ||
      !beyond.isEmpty then .ok .other
  else .ok (.count significand)

/-- Reads at least one digit, and all that follow it. -/
def readDigits (text : List Char) : Except Fault (List Char × List Char) :=
  match text with
  | [] => .error .truncated
  | c :: _ =>
    if c.isDigit then .ok (text.takeWhile Char.isDigit, text.dropWhile Char.isDigit)
    else .error .malformed

/-- Reads the digits before the point, which start with a zero only if it is alone. -/
def readWhole (text : List Char) : Except Fault (List Char × List Char) := do
  let (digits, rest) ← readDigits text
  if digits.head? = some '0' && digits.length > 1 then .error .malformed
  else return (digits, rest)

/-- Reads the point and the digits after it, if there is a point. -/
def readFraction : List Char → Except Fault (Option (List Char) × List Char)
  | '.' :: text => do
    let (digits, rest) ← readDigits text
    return (some digits, rest)
  | text => .ok (none, text)

/-- Takes the sign off the front of an exponent, and says whether it is a minus sign. -/
def exponentSign : List Char → Bool × List Char
  | '+' :: text => (false, text)
  | '-' :: text => (true, text)
  | text => (false, text)

/-- Reads the exponent, if there is one. -/
def readExponent : List Char → Except Fault (Option (Bool × List Char) × List Char)
  | [] => .ok (none, [])
  | c :: text =>
    if c = 'e' || c = 'E' then do
      let (digits, rest) ← readDigits (exponentSign text).2
      return (some ((exponentSign text).1, digits), rest)
    else .ok (none, c :: text)

/-- Reads a number after its sign off the front of a text. -/
def readUnsigned (negative : Bool) (text : List Char) : Except Fault (Number × List Char) := do
  let (whole, text) ← readWhole text
  let (fraction, text) ← readFraction text
  let (exponent, text) ← readExponent text
  let number ← Literal.number ⟨negative, whole, fraction, exponent⟩
  return (number, text)

/-! Each reader leaves no more than it was given, and one that reads digits leaves less. -/

theorem length_readDigits {text digits rest : List Char}
    (h : readDigits text = .ok (digits, rest)) : rest.length < text.length := by
  cases text with
  | nil => simp [readDigits] at h
  | cons c text =>
    simp only [readDigits] at h
    split at h
    · next hc =>
      simp only [Except.ok.injEq, Prod.mk.injEq, List.dropWhile_cons, hc, if_true] at h
      have := (List.dropWhile_sublist (l := text) Char.isDigit).length_le
      simp only [← h.2, List.length_cons]
      omega
    · simp at h

theorem length_readWhole {text digits rest : List Char} (h : readWhole text = .ok (digits, rest)) :
    rest.length < text.length := by
  simp only [readWhole, bind, Except.bind, pure, Except.pure] at h
  grind [→ length_readDigits]

theorem length_readFraction {text rest : List Char} {fraction : Option (List Char)}
    (h : readFraction text = .ok (fraction, rest)) : rest.length ≤ text.length := by
  unfold readFraction at h
  simp only [bind, Except.bind, pure, Except.pure] at h
  grind [→ length_readDigits]

theorem length_exponentSign (text : List Char) :
    (exponentSign text).2.length ≤ text.length := by
  unfold exponentSign
  grind

theorem length_readExponent {text rest : List Char} {exponent : Option (Bool × List Char)}
    (h : readExponent text = .ok (exponent, rest)) : rest.length ≤ text.length := by
  cases text with
  | nil => grind [readExponent]
  | cons c text =>
    simp only [readExponent, bind, Except.bind, pure, Except.pure] at h
    grind [→ length_readDigits, length_exponentSign]

theorem length_readUnsigned {negative : Bool} {text rest : List Char} {number : Number}
    (h : readUnsigned negative text = .ok (number, rest)) : rest.length < text.length := by
  simp only [readUnsigned, bind, Except.bind, pure, Except.pure] at h
  grind [→ length_readWhole, → length_readFraction, → length_readExponent]

end FheSolidity.Json
