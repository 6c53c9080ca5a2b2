import FheSolidity.Json.Token
import FheSolidity.Proofs.Json.Quoted

/-!
# Spellings of tokens

A string has many spellings and every other token has one, and between tokens there may be any
blanks. `Written` says which texts hold which tokens in this way, and `tokens_of_written` that such
a text is cut into these tokens. The only numbers here are counts. A count is spelled in decimal
digits without a sign, a fraction or an exponent, as other literals do not count, and it ends where
no number could go on.
-/

namespace FheSolidity.Json

/-! ## Counts -/

/-- The decimal digits of a positive number do not start with a zero. -/
theorem head?_toDigits_ne_zero {n : Nat} (h : n ≠ 0) :
    (Nat.toDigits 10 n).head? ≠ some '0' := by
  induction n using Nat.strongRecOn with
  | ind n ih =>
    rw [Nat.toDigits_eq_if (by decide)]
    split
    · next hlt =>
      have hdigit : ∀ m < 10, m ≠ 0 → [Nat.digitChar m].head? ≠ some '0' := by decide
      exact hdigit n hlt h
    · next hge =>
      rw [List.head?_append_of_ne_nil _ Nat.toDigits_ne_nil]
      exact ih (n / 10) (by omega) (by omega)

/-- The decimal digits of a number start with a zero only if that is all. -/
theorem toDigits_ne_zero_cons (n : Nat) :
    ¬((Nat.toDigits 10 n).head? = some '0' && (Nat.toDigits 10 n).length > 1) = true := by
  rw [Bool.and_eq_true, decide_eq_true_eq, decide_eq_true_eq]
  intro h
  obtain ⟨hhead, hlength⟩ := h
  by_cases hn : n = 0
  · rw [hn, Nat.toDigits_zero] at hlength
    exact absurd hlength (by decide)
  · exact head?_toDigits_ne_zero hn hhead

/-- Digits are taken into a number if the whole of it fits 64 bits. -/
theorem absorb_eq {digits : List Char} {m : Nat} (h : Nat.ofDigitChars 10 digits m < 2 ^ 64) :
    absorb m digits = (Nat.ofDigitChars 10 digits m, []) := by
  induction digits generalizing m with
  | nil => rfl
  | cons c digits ih =>
    rw [Nat.ofDigitChars_cons] at h ⊢
    -- The number so far is no larger than the whole.
    have hle : 10 * m + (c.toNat - '0'.toNat) ≤
        Nat.ofDigitChars 10 digits (10 * m + (c.toNat - '0'.toNat)) := by
      rw [Nat.ofDigitChars_eq_ofDigitChars_zero]
      exact le_add_right (Nat.le_mul_of_pos_left _ (Nat.pow_pos (by decide)))
    have hvalue : m * 10 + digitValue c = 10 * m + (c.toNat - '0'.toNat) := by
      rw [digitValue, Nat.mul_comm]
    show (if m * 10 + digitValue c < 2 ^ 64 then absorb (m * 10 + digitValue c) digits
      else (m, c :: digits)) = _
    rw [hvalue, if_pos (lt_of_le_of_lt hle h), ih h]

/-- Whether a text may follow a number, so that the number does not go on with it. -/
def EndsNumber (rest : List Char) : Prop :=
  ∀ c ∈ rest.head?, c.isDigit = false ∧ c ∉ ['.', 'e', 'E']

/-- All digits up to where no number goes on are read. -/
theorem readDigits_append {digits rest : List Char} (hne : digits ≠ [])
    (hdigits : ∀ c ∈ digits, c.isDigit = true) (hrest : EndsNumber rest) :
    readDigits (digits ++ rest) = .ok (digits, rest) := by
  have hspan : (digits ++ rest).takeWhile Char.isDigit = digits ∧
      (digits ++ rest).dropWhile Char.isDigit = rest := by
    rw [List.takeWhile_append_of_pos hdigits, List.dropWhile_append_of_pos hdigits]
    cases rest with
    | nil => simp
    | cons c rest => simp [(hrest c rfl).1]
  obtain ⟨d, others, rfl⟩ := List.exists_cons_of_ne_nil hne
  rw [List.cons_append] at hspan ⊢
  show (if d.isDigit = true then _ else _) = _
  rw [if_pos (hdigits d List.mem_cons_self), hspan.1, hspan.2]

/-- Where no number goes on, there is no fraction. -/
theorem readFraction_of_endsNumber {rest : List Char} (h : EndsNumber rest) :
    readFraction rest = .ok (none, rest) := by
  unfold readFraction
  split
  · exact absurd (h '.' rfl).2 (by decide)
  · rfl

/-- Where no number goes on, there is no exponent. -/
theorem readExponent_of_endsNumber {rest : List Char} (h : EndsNumber rest) :
    readExponent rest = .ok (none, rest) := by
  cases rest with
  | nil => rfl
  | cons c rest =>
    have hc : ¬(c = 'e' || c = 'E') = true := by
      have hnotMem := (h c rfl).2
      simp only [List.mem_cons, List.not_mem_nil, or_false, not_or] at hnotMem
      simp [hnotMem]
    rw [readExponent, if_neg hc]

/-- A number that is not scaled up does not exceed the doubles on account of its scale. -/
theorem exceedsDouble_zero (significand : Nat) : exceedsDouble significand 0 = false := by
  unfold exceedsDouble
  rw [show decide ((0 : Int) > 0) = false from rfl, Bool.and_false, Bool.false_and]

/-- A literal of the digits of a number below `2^64` is a count. -/
theorem number_toDigits {n : Nat} (h : n < 2 ^ 64) :
    Literal.number ⟨false, Nat.toDigits 10 n, none, none⟩ = .ok (.count n) := by
  have habsorb : absorb 0 (Nat.toDigits 10 n) = (n, []) := by
    rw [absorb_eq (by rwa [Nat.ofDigitChars_ten_toDigits]), Nat.ofDigitChars_ten_toDigits]
  unfold Literal.number
  rw [habsorb]
  show (if exceedsDouble n 0 = true then _ else _) = _
  rw [exceedsDouble_zero]
  rfl

/-- The decimal digits of a count are read as the count. -/
theorem readUnsigned_toDigits {n : Nat} (hn : n < 2 ^ 64) {rest : List Char}
    (hrest : EndsNumber rest) :
    readUnsigned false (Nat.toDigits 10 n ++ rest) = .ok (.count n, rest) := by
  have hread : readDigits (Nat.toDigits 10 n ++ rest) = .ok (Nat.toDigits 10 n, rest) :=
    readDigits_append Nat.toDigits_ne_nil
      (fun c hc => Nat.isDigit_of_mem_toDigits (by decide) (by decide) hc) hrest
  have hwhole : readWhole (Nat.toDigits 10 n ++ rest) = .ok (Nat.toDigits 10 n, rest) := by
    unfold readWhole
    rw [hread]
    exact if_neg (toDigits_ne_zero_cons n)
  unfold readUnsigned
  rw [hwhole]
  show (readFraction rest >>= _) = _
  rw [readFraction_of_endsNumber hrest]
  show (readExponent rest >>= _) = _
  rw [readExponent_of_endsNumber hrest]
  show (Literal.number ⟨false, Nat.toDigits 10 n, none, none⟩ >>= _) = _
  rw [number_toDigits hn]
  rfl

/-! ## Tokens -/

/-- The texts that spell a token. -/
inductive TokenText : Token → List Char → Prop
  | openBracket : TokenText .openBracket ['[']
  | closeBracket : TokenText .closeBracket [']']
  | openBrace : TokenText .openBrace ['\x7b']
  | closeBrace : TokenText .closeBrace ['\x7d']
  | comma : TokenText .comma [',']
  | colon : TokenText .colon [':']
  | null : TokenText .null "null".toList
  | truth (b : Bool) : TokenText (.truth b) (if b then "true" else "false").toList
  | count {n : Nat} (h : n < 2 ^ 64) : TokenText (.number (.count n)) n.repr.toList
  | text {s : String} {text : List Char} (h : StringText s.toList text) :
    TokenText (.text s) ('"' :: (text ++ ['"']))

/-- Whether a token ends before a text, which a number does not do before a digit. -/
def Token.EndsBefore : Token → List Char → Prop
  | .number _, rest => EndsNumber rest
  | _, _ => True

/-- The blanks of JSON. -/
def blanks : List Char :=
  [' ', '\t', '\n', '\r']

/-- The texts in which some tokens stand in their order, with any blanks around them. -/
inductive Written : List Token → List Char → Prop
  | nil {gap : List Char} (hgap : gap ⊆ blanks) : Written [] gap
  | cons {token : Token} {ts : List Token} {gap text rest : List Char} (hgap : gap ⊆ blanks)
    (htext : TokenText token text) (hend : token.EndsBefore rest) (hrest : Written ts rest) :
    Written (token :: ts) (gap ++ (text ++ rest))

/-- Blanks before a text add no tokens. -/
theorem tokens_gap_append {gap : List Char} (hgap : gap ⊆ blanks) (text : List Char) :
    tokens (gap ++ text) = tokens text := by
  induction gap with
  | nil => rfl
  | cons c gap ih =>
    obtain ⟨hc, hgap⟩ := List.cons_subset.1 hgap
    have hblank : ∀ b ∈ blanks, isJsonBlank b = true := List.all_eq_true.1 rfl
    rw [List.cons_append, tokens, if_pos (hblank c hc), ih hgap]

/-- A token whose text starts with some character is cut off if it is the first one. -/
theorem tokens_cons {c : Char} (hc : isJsonBlank c = false) {text rest : List Char} {token : Token}
    (h : firstToken c text = (token, rest)) : tokens (c :: text) = token :: tokens rest := by
  rw [tokens, if_neg (by rw [hc]; exact Bool.false_ne_true)]
  simp only [h]

/-- A digit is none of the characters that no number starts with. -/
theorem ne_of_isDigit {c d : Char} (hc : c.isDigit = true) (hd : d.isDigit = false) : c ≠ d := by
  rintro rfl
  rw [hc] at hd
  exact nomatch hd

/-- A digit is not found among other characters. -/
theorem lookup_of_isDigit {β : Type} {c : Char} (hc : c.isDigit = true) {table : List (Char × β)}
    (h : (table.all fun entry => !entry.1.isDigit) = true) : table.lookup c = none := by
  rw [List.lookup_eq_none_iff]
  intro entry hentry
  rw [bne_iff_ne]
  exact ne_of_isDigit hc (Bool.not_eq_true' _ ▸ List.all_eq_true.1 h entry hentry)

/-- What starts with a digit is a number. -/
theorem firstToken_of_isDigit {c : Char} (h : c.isDigit = true) (text : List Char) :
    firstToken c text = orBroken .number .broken (readUnsigned false (c :: text)) := by
  have hpunctuation : punctuation? c = none := lookup_of_isDigit h rfl
  have hword : wordFrom? c = none := lookup_of_isDigit h rfl
  unfold firstToken
  rw [hpunctuation, hword]
  show (if c = '"' then _ else if c = '-' then _ else if c.isDigit then _ else _) = _
  rw [if_neg (ne_of_isDigit h rfl), if_neg (ne_of_isDigit h rfl), if_pos h]

/-- A spelling of a token before a text that it does not run into is cut off as the token. -/
theorem tokens_text_append {token : Token} {text rest : List Char} (h : TokenText token text)
    (hend : token.EndsBefore rest) : tokens (text ++ rest) = token :: tokens rest := by
  cases h with
  | openBracket => exact tokens_cons rfl rfl
  | closeBracket => exact tokens_cons rfl rfl
  | openBrace => exact tokens_cons rfl rfl
  | closeBrace => exact tokens_cons rfl rfl
  | comma => exact tokens_cons rfl rfl
  | colon => exact tokens_cons rfl rfl
  | null => exact tokens_cons rfl rfl
  | truth b =>
    cases b with
    | false => exact tokens_cons rfl rfl
    | true => exact tokens_cons rfl rfl
  | @count n hn =>
    rw [Nat.toList_repr]
    have hread := readUnsigned_toDigits hn (show EndsNumber rest from hend)
    obtain ⟨d, digits, hcons⟩ :=
      List.exists_cons_of_ne_nil (Nat.toDigits_ne_nil (b := 10) (n := n))
    have hd : d.isDigit = true :=
      Nat.isDigit_of_mem_toDigits (b := 10) (n := n) (by decide) (by decide)
        (by rw [hcons]; exact List.mem_cons_self)
    have hblank : isJsonBlank d = false := by
      unfold isJsonBlank
      simp [ne_of_isDigit hd]
    rw [hcons, List.cons_append] at hread ⊢
    apply tokens_cons hblank
    rw [firstToken_of_isDigit hd, hread]
    rfl
  | @text s text hs =>
    have hread := readQuoted_of_stringText hs rest
    rw [List.cons_append, List.append_assoc]
    apply tokens_cons rfl
    show orBroken (fun cs => Token.text (String.ofList cs)) .brokenText
      (readQuoted (text ++ ('"' :: rest))) = _
    rw [hread]
    show (Token.text (String.ofList s.toList), rest) = _
    rw [String.ofList_toList]

/-- A text is cut into the tokens that are written in it. -/
theorem tokens_of_written {ts : List Token} {text : List Char} (h : Written ts text) :
    tokens text = ts := by
  induction h with
  | nil hgap =>
    have hnone := tokens_gap_append hgap []
    rw [List.append_nil] at hnone
    rw [hnone, tokens]
  | cons hgap htext hend _ ih => rw [tokens_gap_append hgap, tokens_text_append htext hend, ih]

end FheSolidity.Json
