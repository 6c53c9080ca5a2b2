import FheSolidity.Json.Quoted

/-!
# Values of JSON and their text

The values that are written as JSON: texts, arrays and objects, whose members keep their order. A
value is written on one line without blanks, or with every element and member on a line of its own,
two spaces further in than the brackets around it. Empty brackets stay together in both layouts.
-/

namespace FheSolidity.Json

/-- A value that can be written. -/
inductive Value
  | text (s : String)
  | array (items : List Value)
  | object (members : List (String × Value))

/-- How the parts of a value are set apart. -/
inductive Layout
  /-- All on one line. -/
  | compact
  /-- Each element and member on its own line. -/
  | indented
  deriving DecidableEq, Repr

namespace Layout

/-- What stands before an element, a member or a closing bracket at a depth. -/
def newline : Layout → Nat → String
  | compact, _ => ""
  | indented, depth => "\n" ++ String.ofList (List.replicate (2 * depth) ' ')

/-- What stands between a key and its value. -/
def colon : Layout → String
  | compact => ":"
  | indented => ": "

/-- Some parts between brackets that stand at a depth. -/
def enclose (layout : Layout) (depth : Nat) (opening closing : String) : List String → String
  | [] => opening ++ closing
  | parts =>
    opening ++ layout.newline (depth + 1) ++
      ("," ++ layout.newline (depth + 1)).intercalate parts ++ layout.newline depth ++ closing

end Layout

namespace Value

mutual

/-- The text of a value whose brackets stand at a depth. -/
def write (layout : Layout) (depth : Nat) : Value → String
  | .text s => quote s
  | .array items => layout.enclose depth "[" "]" (itemTexts layout (depth + 1) items)
  | .object members =>
    layout.enclose depth "\x7b" "\x7d" (memberTexts layout (depth + 1) members)

/-- The texts of the elements of an array. -/
def itemTexts (layout : Layout) (depth : Nat) : List Value → List String
  | [] => []
  | item :: items => item.write layout depth :: itemTexts layout depth items

/-- The texts of the members of an object. -/
def memberTexts (layout : Layout) (depth : Nat) : List (String × Value) → List String
  | [] => []
  | (key, value) :: members =>
    (quote key ++ layout.colon ++ value.write layout depth) :: memberTexts layout depth members

end

/-- A value on one line. -/
def compact (value : Value) : String :=
  value.write .compact 0

/-- A value over several lines. -/
def pretty (value : Value) : String :=
  value.write .indented 0

end Value

end FheSolidity.Json
