import FheSolidity.Text.WordPoints

/-!
# Names

Two kinds of name occur in a declaration. A parameter's name is an ASCII identifier. A function's
name starts like one and goes on with any word characters of Unicode.
-/

namespace FheSolidity.Text

/-- Whether a character can start a name: an ASCII letter or the underscore. -/
def isNameStart (c : Char) : Bool :=
  c.isAlpha || c == '_'

/-- Whether a character can go on in an ASCII identifier. -/
def isIdentifierChar (c : Char) : Bool :=
  c.isAlphanum || c == '_'

/-- Whether a character is a word character: alphabetic, a mark, a decimal digit, a connector or
a joiner. -/
def isWordChar (c : Char) : Bool :=
  wordPoints.contains c

/-- Whether a text is an ASCII identifier. -/
def isIdentifier : List Char → Bool
  | [] => false
  | c :: rest => isNameStart c && rest.all isIdentifierChar

/-- Whether a text is a function's name. -/
def isFunctionName : List Char → Bool
  | [] => false
  | c :: rest => isNameStart c && rest.all isWordChar

end FheSolidity.Text
