/-!
# Sets of code points

A set of code points is written as its maximal intervals in ascending order. The tables of
character properties in this folder are values of this type.
-/

namespace FheSolidity.Text

/-- A set of code points as intervals in ascending order, both ends of each included. -/
abbrev CodePoints := List (Nat × Nat)

/-- Whether a character's code point lies in one of the intervals. -/
def CodePoints.contains (points : CodePoints) (c : Char) : Bool :=
  points.any fun (first, last) => first ≤ c.toNat && c.toNat ≤ last

end FheSolidity.Text
