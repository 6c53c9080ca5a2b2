import Mathlib
import FheSolidity.Json.Quoted

/-!
# Spellings of strings

A character of a JSON string may stand for itself, be escaped by a letter, or be escaped by its
UTF-16 code units in hexadecimal digits of either case. `StringText` says which texts spell a string
in this way. Reading undoes every spelling (`readQuoted_of_stringText`), and what `quote` writes is
one of them (`toList_quote`).
-/

namespace FheSolidity.Json

/-! ## Code units -/

/-- A hexadecimal digit of a number below sixteen, in either case. -/
def HexDigit (n : Nat) (c : Char) : Prop :=
  n < 16 ∧ (c = Nat.digitChar n ∨ c = (Nat.digitChar n).toUpper)

/-- The four hexadecimal digits of a code unit. -/
inductive UnitText : Nat → List Char → Prop
  | digits {a b c d : Nat} {w x y z : Char} (ha : HexDigit a w) (hb : HexDigit b x)
    (hc : HexDigit c y) (hd : HexDigit d z) :
    UnitText (((a * 16 + b) * 16 + c) * 16 + d) [w, x, y, z]

/-- The value of a hexadecimal digit is read. -/
theorem hexValue?_of_hexDigit {n : Nat} {c : Char} (h : HexDigit n c) : hexValue? c = some n := by
  obtain ⟨hn, rfl | rfl⟩ := h
  · revert n
    decide
  · revert n
    decide

/-- The code unit that four hexadecimal digits write is found. -/
theorem hexNumber?_of_hexDigit {a b c d : Nat} {w x y z : Char} (ha : HexDigit a w)
    (hb : HexDigit b x) (hc : HexDigit c y) (hd : HexDigit d z) :
    hexNumber? w x y z = some (((a * 16 + b) * 16 + c) * 16 + d) := by
  unfold hexNumber?
  rw [hexValue?_of_hexDigit ha, hexValue?_of_hexDigit hb, hexValue?_of_hexDigit hc,
    hexValue?_of_hexDigit hd]
  rfl

/-- Four hexadecimal digits are read as the code unit, whatever follows them. -/
theorem readUnit_of_unitText {n : Nat} {text : List Char} (h : UnitText n text)
    (rest : List Char) : readUnit (text ++ rest) = .ok (n, rest) := by
  cases h with
  | digits ha hb hc hd =>
    have hnumber := hexNumber?_of_hexDigit ha hb hc hd
    unfold readUnit
    simp only [List.cons_append, List.nil_append, hnumber]

/-! ## Characters -/

/-- The letters that escape a character, each with the character. -/
def shortEscapes : List (Char × Char) :=
  [('"', '"'), ('\\', '\\'), ('/', '/'), ('b', '\x08'), ('f', '\x0c'), ('n', '\n'), ('r', '\r'),
    ('t', '\t')]

/-- The texts that spell a character of a string. -/
inductive CharText : Char → List Char → Prop
  /-- A character stands for itself if it is no control character, quote or backslash. -/
  | plain {c : Char} (hcontrol : 0x20 ≤ c.toNat) (hquote : c ≠ '"') (hbackslash : c ≠ '\\') :
    CharText c [c]
  /-- A character is escaped by a letter. -/
  | short {letter c : Char} (h : (letter, c) ∈ shortEscapes) : CharText c ['\\', letter]
  /-- A character is escaped by its only code unit. -/
  | unit {c : Char} {text : List Char} (h : UnitText c.toNat text) :
    CharText c ('\\' :: 'u' :: text)
  /-- A character is escaped by its two surrogates. -/
  | pair {c : Char} {high low : Nat} {text text' : List Char} (hhigh : UnitText high text)
    (hlow : UnitText low text') (hhighRange : 0xD800 ≤ high ∧ high < 0xDC00)
    (hlowRange : 0xDC00 ≤ low ∧ low < 0xE000)
    (hc : c.toNat = 0x10000 + (high - 0xD800) * 0x400 + (low - 0xDC00)) :
    CharText c ('\\' :: 'u' :: (text ++ '\\' :: 'u' :: text'))

/-- A character is no surrogate. -/
theorem not_surrogate (c : Char) : c.toNat < 0xD800 ∨ 0xE000 ≤ c.toNat := by
  have hvalid : c.toNat.isValidChar := c.valid
  unfold Nat.isValidChar at hvalid
  omega

/-- The code unit of a character is read as the character. -/
theorem readUnits_of_unitText {c : Char} {text : List Char} (h : UnitText c.toNat text)
    (rest : List Char) : readUnits (text ++ rest) = .ok (c, rest) := by
  have hrange : (decide (c.toNat < 0xD800) || decide (0xE000 ≤ c.toNat)) = true := by
    simpa using not_surrogate c
  unfold readUnits
  rw [readUnit_of_unitText h]
  show (if (decide (c.toNat < 0xD800) || decide (0xE000 ≤ c.toNat)) = true then _ else _) = _
  rw [if_pos hrange, Char.ofNat_toNat]

/-- The escape of a second surrogate completes the character. -/
theorem readLowSurrogate_of_unitText {high low : Nat} {text : List Char} (h : UnitText low text)
    (hrange : 0xDC00 ≤ low ∧ low < 0xE000) (rest : List Char) :
    readLowSurrogate high ('\\' :: 'u' :: (text ++ rest)) =
      .ok (Char.ofNat (0x10000 + (high - 0xD800) * 0x400 + (low - 0xDC00)), rest) := by
  have hlow : (decide (0xDC00 ≤ low) && decide (low < 0xE000)) = true := by simpa using hrange
  simp only [readLowSurrogate, readUnit_of_unitText h, hlow, if_true]

/-- The surrogates of a character are read as the character. -/
theorem readUnits_of_surrogates {c : Char} {high low : Nat} {text text' : List Char}
    (hhigh : UnitText high text) (hlow : UnitText low text')
    (hhighRange : 0xD800 ≤ high ∧ high < 0xDC00) (hlowRange : 0xDC00 ≤ low ∧ low < 0xE000)
    (hc : c.toNat = 0x10000 + (high - 0xD800) * 0x400 + (low - 0xDC00)) (rest : List Char) :
    readUnits (text ++ '\\' :: 'u' :: (text' ++ rest)) = .ok (c, rest) := by
  have hsurrogate : ¬(decide (high < 0xD800) || decide (0xE000 ≤ high)) = true := by
    simp only [Bool.or_eq_true, decide_eq_true_eq]
    omega
  unfold readUnits
  rw [readUnit_of_unitText hhigh]
  show (if (decide (high < 0xD800) || decide (0xE000 ≤ high)) = true then _ else
    if 0xDC00 ≤ high then _ else readLowSurrogate high _) = _
  rw [if_neg hsurrogate, if_neg (Nat.not_le.2 hhighRange.2),
    readLowSurrogate_of_unitText hlow hlowRange, ← hc, Char.ofNat_toNat]

/-- Behind a backslash, the letter or the code units of a character are read as the character. -/
theorem readEscape_of_charText {c : Char} {text : List Char} (h : CharText c ('\\' :: text))
    (rest : List Char) : readEscape (text ++ rest) = .ok (c, rest) := by
  cases h with
  | plain _ _ hbackslash => exact absurd rfl hbackslash
  | @short letter _ hmem =>
    have hletter : shortEscape? letter = some c := by
      revert hmem
      unfold shortEscapes
      simp only [List.mem_cons, Prod.mk.injEq, List.not_mem_nil, or_false]
      rintro (⟨rfl, rfl⟩ | ⟨rfl, rfl⟩ | ⟨rfl, rfl⟩ | ⟨rfl, rfl⟩ | ⟨rfl, rfl⟩ | ⟨rfl, rfl⟩ |
        ⟨rfl, rfl⟩ | ⟨rfl, rfl⟩) <;> rfl
    simp [readEscape, hletter]
  | unit hunit => exact readUnits_of_unitText hunit rest
  | pair hhigh hlow hhighRange hlowRange hc =>
    rw [List.cons_append, List.append_assoc]
    exact readUnits_of_surrogates hhigh hlow hhighRange hlowRange hc rest

/-! ## Strings -/

/-- The texts that spell a string, without the quotes around it. -/
inductive StringText : List Char → List Char → Prop
  | nil : StringText [] []
  | cons {c : Char} {cs text rest : List Char} (h : CharText c text) (hrest : StringText cs rest) :
    StringText (c :: cs) (text ++ rest)

/-- A character that stands for itself is read as it is. -/
theorem readQuoted_plain {c : Char} (hcontrol : 0x20 ≤ c.toNat) (hquote : c ≠ '"')
    (hbackslash : c ≠ '\\') {text cs rest : List Char} (h : readQuoted text = .ok (cs, rest)) :
    readQuoted (c :: text) = .ok (c :: cs, rest) := by
  rw [readQuoted, if_neg hquote, if_neg hbackslash, if_neg (Nat.not_lt.2 hcontrol), h]

/-- An escaped character is read as its escape says. -/
theorem readQuoted_escaped {c : Char} {text text' cs rest : List Char}
    (hescape : readEscape text = .ok (c, text')) (h : readQuoted text' = .ok (cs, rest)) :
    readQuoted ('\\' :: text) = .ok (c :: cs, rest) := by
  rw [readQuoted, if_neg (by decide), if_pos rfl]
  split
  · next hfault =>
    rw [hescape] at hfault
    cases hfault
  · next hread =>
    rw [hescape, Except.ok.injEq, Prod.mk.injEq] at hread
    obtain ⟨rfl, rfl⟩ := hread
    simp [h]

/-- A spelling of a character is the character, or starts with a backslash. -/
theorem CharText.plain_or_escaped {c : Char} {text : List Char} (h : CharText c text) :
    (text = [c] ∧ 0x20 ≤ c.toNat ∧ c ≠ '"' ∧ c ≠ '\\') ∨ ∃ escaped, text = '\\' :: escaped := by
  cases h with
  | plain hcontrol hquote hbackslash => exact .inl ⟨rfl, hcontrol, hquote, hbackslash⟩
  | short => exact .inr ⟨_, rfl⟩
  | unit => exact .inr ⟨_, rfl⟩
  | pair => exact .inr ⟨_, rfl⟩

/-- Every spelling of a string is read as the string, up to the closing quote. -/
theorem readQuoted_of_stringText {cs text : List Char} (h : StringText cs text)
    (rest : List Char) : readQuoted (text ++ '"' :: rest) = .ok (cs, rest) := by
  induction h with
  | nil => rw [List.nil_append, readQuoted, if_pos rfl]
  | @cons c cs text text' hchar _ ih =>
    rw [List.append_assoc]
    rcases hchar.plain_or_escaped with ⟨rfl, hcontrol, hquote, hbackslash⟩ | ⟨escaped, rfl⟩
    · exact readQuoted_plain hcontrol hquote hbackslash ih
    · exact readQuoted_escaped (readEscape_of_charText hchar _) ih

/-! ## Writing -/

/-- The digit that is written for a number is a hexadecimal digit of it. -/
theorem hexDigit_hexDigit {n : Nat} (h : n < 16) : HexDigit n (hexDigit n) :=
  ⟨h, .inl rfl⟩

/-- What is written for a character spells it. -/
theorem charText_escape (c : Char) : CharText c (escape c) := by
  have hshort : ∀ p ∈ shortEscapes, CharText p.2 ['\\', p.1] := fun _ hp => .short hp
  unfold escape
  split_ifs with hquote hbackslash hb ht hn hf hr hcontrol
  · exact hquote ▸ hshort ('"', '"') (by decide)
  · exact hbackslash ▸ hshort ('\\', '\\') (by decide)
  · exact hb ▸ hshort ('b', '\x08') (by decide)
  · exact ht ▸ hshort ('t', '\t') (by decide)
  · exact hn ▸ hshort ('n', '\n') (by decide)
  · exact hf ▸ hshort ('f', '\x0c') (by decide)
  · exact hr ▸ hshort ('r', '\r') (by decide)
  · apply CharText.unit
    have hunit := UnitText.digits (hexDigit_hexDigit (n := 0) (by decide))
      (hexDigit_hexDigit (n := 0) (by decide))
      (hexDigit_hexDigit (n := c.toNat / 16) (by omega))
      (hexDigit_hexDigit (n := c.toNat % 16) (by omega))
    rw [show ((0 * 16 + 0) * 16 + c.toNat / 16) * 16 + c.toNat % 16 = c.toNat by omega] at hunit
    exact hunit
  · exact .plain (Nat.not_lt.1 hcontrol) hquote hbackslash

/-- What is written between the quotes spells the string. -/
theorem stringText_escape (cs : List Char) : StringText cs (cs.flatMap escape) := by
  induction cs with
  | nil => exact .nil
  | cons c cs ih => exact .cons (charText_escape c) ih

/-- A quoted text is a spelling between two quotes. -/
theorem toList_quote (s : String) :
    (quote s).toList = '"' :: (s.toList.flatMap escape ++ ['"']) := by
  unfold quote
  simp

end FheSolidity.Json
