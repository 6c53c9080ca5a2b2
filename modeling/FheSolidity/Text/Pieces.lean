import FheSolidity.Text.Blank

/-!
# Taking a text apart

A text is taken apart at its front, where it has to begin with given characters, at separators, and
into words.
-/

namespace FheSolidity.Text

/-- What follows a given beginning in a text, if the text begins so. -/
def after? : List Char → List Char → Option (List Char)
  | [], text => some text
  | _ :: _, [] => none
  | b :: beginning, c :: text => if b = c then after? beginning text else none

/-- The pieces of a text between its separators: one more than there are separators, and some of
them possibly empty. -/
def pieces (separates : Char → Bool) : List Char → List (List Char)
  | [] => [[]]
  | c :: rest =>
    if separates c then [] :: pieces separates rest
    else
      match pieces separates rest with
      | [] => [[c]]
      | piece :: others => (c :: piece) :: others

/-- The words of a text: its nonempty pieces between blanks. -/
def words (text : List Char) : List (List Char) :=
  (pieces isBlank text).filter fun piece => !piece.isEmpty

end FheSolidity.Text
