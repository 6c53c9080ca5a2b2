/-!
# Source code as lines

Generated source is built from lines, each at a depth of indentation, and becomes text only when it
is rendered. A block is a head, an opening brace, its lines one level deeper, and a closing brace.
-/

namespace FheSolidity

/-- One line of source. -/
structure Line where
  /-- How many levels the line is indented. -/
  depth : Nat
  /-- The line without its indentation. -/
  text : String
  deriving DecidableEq, Repr

/-- The spaces before a line at a depth, four for each level. -/
def indentation (depth : Nat) : String :=
  String.ofList (List.replicate (4 * depth) ' ')

/-- A line as text. An empty line is not indented. -/
def Line.render (l : Line) : String :=
  if l.text = "" then "\n" else indentation l.depth ++ l.text ++ "\n"

/-- A piece of source. -/
abbrev Code := List Line

namespace Code

/-- Source as text. -/
def render (code : Code) : String :=
  String.join (code.map Line.render)

/-- A line that is not indented. -/
def line (text : String) : Code :=
  [⟨0, text⟩]

/-- An empty line. -/
def blank : Code :=
  line ""

/-- Source one level deeper. -/
def indent (code : Code) : Code :=
  code.map fun l => { l with depth := l.depth + 1 }

/-- The line that opens a block. -/
def opening (head : String) : Code :=
  line (head ++ " \x7b")

/-- The line that closes a block. -/
def closing : Code :=
  line "\x7d"

/-- Source between braces after a head. -/
def block (head : String) (body : Code) : Code :=
  opening head ++ indent body ++ closing

/-- The end of a library, after an empty line. -/
def libraryEnd : Code :=
  blank ++ closing

end Code

end FheSolidity
