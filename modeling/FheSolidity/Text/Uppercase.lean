import FheSolidity.Text.UppercaseRuns

/-!
# Uppercase

The full uppercase mapping of Unicode, which may turn one character into up to three, and the two
ways names are changed by it: `capitalize` maps the first character of a name and keeps the rest,
and `constantCase` maps its ASCII letters.
-/

namespace FheSolidity.Text

/-- The characters that a character becomes in upper case: its entry among the long mappings, else
its place in a run of single mappings, else itself. -/
def uppercase (c : Char) : List Char :=
  match longUppercase.lookup c.toNat with
  | some points => points.map Char.ofNat
  | none =>
    match uppercaseRuns.find? (·.contains c.toNat) with
    | some run => [Char.ofNat (run.image c.toNat)]
    | none => [c]

/-- A name with its first character in upper case and the rest untouched, so that `asEuint8`
becomes `AsEuint8`. -/
def capitalize (name : String) : String :=
  match name.toList with
  | [] => ""
  | c :: rest => String.ofList (uppercase c ++ rest)

/-- A name with its ASCII letters in upper case, as constants are written. -/
def constantCase (name : String) : String :=
  String.ofList (name.toList.map Char.toUpper)

end FheSolidity.Text
