import FheSolidity.Json.Value
import FheSolidity.Proofs.Json.Datum

/-!
# What is written as JSON

A text holds some tokens if it can be put before any text with tokens of its own and adds exactly
these (`Holds`). What is written for a value holds the tokens of the value, in either layout and at
any depth (`holds_write`), so it is a document of the value.
-/

namespace FheSolidity.Json

/-! ## Texts that hold tokens -/

/-- Blanks before a text add no tokens. -/
theorem Written.gap_append {ts : List Token} {text gap : List Char} (hgap : gap ⊆ blanks)
    (h : Written ts text) : Written ts (gap ++ text) := by
  cases h with
  | nil hgap' => exact .nil (List.append_subset.2 ⟨hgap, hgap'⟩)
  | cons hgap' htext hend hrest =>
    rw [← List.append_assoc]
    exact .cons (List.append_subset.2 ⟨hgap, hgap'⟩) htext hend hrest

/-- A text holds some tokens if these are added to those of any text behind it. -/
def Holds (text : String) (ts : List Token) : Prop :=
  ∀ us rest, Written us rest → Written (ts ++ us) (text.toList ++ rest)

/-- Texts put together hold the tokens of each. -/
theorem Holds.append {first second : String} {ts us : List Token} (hfirst : Holds first ts)
    (hsecond : Holds second us) : Holds (first ++ second) (ts ++ us) := by
  intro vs rest h
  rw [String.toList_append, List.append_assoc, List.append_assoc]
  exact hfirst _ _ (hsecond _ _ h)

/-- A text of blanks holds no token. -/
theorem holds_gap (gap : String) (h : gap.toList ⊆ blanks) : Holds gap [] :=
  fun _ _ hwritten => hwritten.gap_append h

/-- A spelling of a token other than a number holds the token. -/
theorem holds_token (text : String) (token : Token) (htext : TokenText token text.toList)
    (hend : ∀ rest, token.EndsBefore rest) : Holds text [token] :=
  fun _ _ hwritten => .cons (List.nil_subset _) htext (hend _) hwritten

/-- A text is a document of a value if it holds the tokens of the value. -/
theorem Datum.spells_of_holds {d : Datum} {text : String} (h : Holds text d.tokens) :
    d.Spells text := by
  have hwritten := h [] [] (Written.nil (List.nil_subset blanks))
  rw [List.append_nil, List.append_nil] at hwritten
  exact hwritten

/-! ## Layouts -/

namespace Layout

/-- What stands before an element holds no token. -/
theorem holds_newline (layout : Layout) (depth : Nat) : Holds (layout.newline depth) [] := by
  cases layout with
  | compact => exact holds_gap "" (List.nil_subset _)
  | indented =>
    have hspaces : Holds (String.ofList (List.replicate (2 * depth) ' ')) [] := by
      apply holds_gap
      rw [String.toList_ofList]
      intro c hc
      rw [List.eq_of_mem_replicate hc]
      decide
    exact (holds_gap "\n" (by decide)).append hspaces

/-- What stands between a key and its value holds a colon. -/
theorem holds_colon (layout : Layout) : Holds layout.colon [.colon] := by
  have hcolon : Holds ":" [.colon] := holds_token ":" .colon .colon fun _ => trivial
  cases layout with
  | compact => exact hcolon
  | indented => exact hcolon.append (holds_gap " " (by decide))

/-- Parts put together with a comma and a blank between them hold the tokens of the parts with
commas between them. -/
theorem holds_intercalate {gap : String} (hgap : Holds gap []) {texts : List String}
    {parts : List (List Token)} (h : List.Forall₂ Holds texts parts) :
    Holds (("," ++ gap).intercalate texts) (separate parts) := by
  have hcomma : Holds ("," ++ gap) [.comma] :=
    (holds_token "," .comma .comma fun _ => trivial).append hgap
  induction h with
  | nil =>
    rw [String.intercalate_nil]
    exact holds_gap "" (List.nil_subset _)
  | @cons text part texts parts hpart hparts ih =>
    cases hparts with
    | nil =>
      rw [String.intercalate_singleton, separate, List.flatMap_nil, List.append_nil]
      exact hpart
    | @cons next part' texts parts hnext hparts =>
      rw [String.intercalate_cons_cons, separate_cons_cons]
      have hfront := hpart.append hcomma
      have hall := hfront.append ih
      rw [List.append_assoc] at hall
      exact hall

/-- Parts between two brackets hold their tokens between the tokens of the brackets. -/
theorem holds_enclose (layout : Layout) (depth : Nat) {opening closing : String}
    {left right : Token} (hopening : Holds opening [left]) (hclosing : Holds closing [right])
    {texts : List String} {parts : List (List Token)} (h : List.Forall₂ Holds texts parts) :
    Holds (layout.enclose depth opening closing texts) (left :: (separate parts ++ [right])) := by
  have hparts := holds_intercalate (layout.holds_newline (depth + 1)) h
  cases h with
  | nil => exact hopening.append hclosing
  | cons =>
    have hopened := (hopening.append (layout.holds_newline (depth + 1))).append hparts
    have hclosed := (hopened.append (layout.holds_newline depth)).append hclosing
    unfold enclose
    rw [List.append_nil, List.append_nil] at hclosed
    exact hclosed

end Layout

/-! ## Values -/

/-- A quoted text holds the text. -/
theorem holds_quote (s : String) : Holds (quote s) [.text s] := by
  refine holds_token _ (.text s) ?_ fun _ => trivial
  rw [toList_quote]
  exact .text (stringText_escape s.toList)

namespace Value

mutual

/-- The value of JSON that is written. -/
def datum : Value → Datum
  | .text s => .text s
  | .array items => .array (itemData items)
  | .object members => .object (memberData members)

/-- The values that are written for the elements of an array. -/
def itemData : List Value → List Datum
  | [] => []
  | item :: items => item.datum :: itemData items

/-- The members that are written for an object. -/
def memberData : List (String × Value) → List (String × Datum)
  | [] => []
  | (key, value) :: members => (key, value.datum) :: memberData members

end

mutual

/-- What is written for a value holds the tokens of the value. -/
theorem holds_write (layout : Layout) (depth : Nat) :
    ∀ value : Value, Holds (value.write layout depth) value.datum.tokens
  | .text s => holds_quote s
  | .array items =>
    layout.holds_enclose depth (holds_token "[" .openBracket .openBracket fun _ => trivial)
      (holds_token "]" .closeBracket .closeBracket fun _ => trivial)
      (holds_itemTexts layout (depth + 1) items)
  | .object members =>
    layout.holds_enclose depth (holds_token "\x7b" .openBrace .openBrace fun _ => trivial)
      (holds_token "\x7d" .closeBrace .closeBrace fun _ => trivial)
      (holds_memberTexts layout (depth + 1) members)

/-- What is written for the elements of an array holds their tokens. -/
theorem holds_itemTexts (layout : Layout) (depth : Nat) : ∀ items : List Value,
    List.Forall₂ Holds (itemTexts layout depth items) (Datum.itemTokens (itemData items))
  | [] => .nil
  | item :: items => .cons (holds_write layout depth item) (holds_itemTexts layout depth items)

/-- What is written for the members of an object holds their tokens. -/
theorem holds_memberTexts (layout : Layout) (depth : Nat) : ∀ members : List (String × Value),
    List.Forall₂ Holds (memberTexts layout depth members)
      (Datum.memberTokens (memberData members))
  | [] => .nil
  | (key, value) :: members =>
    .cons (((holds_quote key).append layout.holds_colon).append (holds_write layout depth value))
      (holds_memberTexts layout depth members)

end

/-- The elements of an array are written one by one. -/
theorem itemData_eq_map (items : List Value) : itemData items = items.map datum := by
  induction items with
  | nil => rfl
  | cons item items ih => rw [itemData, ih, List.map_cons]

end Value

end FheSolidity.Json
