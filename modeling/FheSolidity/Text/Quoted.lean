import FheSolidity.Text.HiddenPoints

/-!
# Quoted text in log lines

A text is shown between double quotes with every character that would not be seen as itself
written as an escape: NUL, tab, newline, carriage return, the quote and the backslash by a letter,
and any other hidden character by its code point in hexadecimal.
-/

namespace FheSolidity.Text

/-- How one character is written between the quotes. -/
def escapeShown (c : Char) : List Char :=
  if c = '\x00' then ['\\', '0']
  else if c = '\t' then ['\\', 't']
  else if c = '\r' then ['\\', 'r']
  else if c = '\n' then ['\\', 'n']
  else if c = '"' then ['\\', '"']
  else if c = '\\' then ['\\', '\\']
  else if hiddenPoints.contains c then
    "\\u\x7b".toList ++ Nat.toDigits 16 c.toNat ++ "\x7d".toList
  else [c]

/-- A text between double quotes, with its hidden characters escaped. -/
def quoted (text : String) : String :=
  "\"" ++ String.ofList (text.toList.flatMap escapeShown) ++ "\""

end FheSolidity.Text
