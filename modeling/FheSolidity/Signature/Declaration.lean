import FheSolidity.Failure
import FheSolidity.Signature
import FheSolidity.Text.Name
import FheSolidity.Text.Pieces

/-!
# Reading declarations

`Declaration.read` recovers a signature from its declaration. Blanks around the text are dropped,
and the fixed words between the name and the two lists must stand exactly as they are written. The
parameters are separated by commas, and each is a type, perhaps a data location, and a name; the
result is a type and perhaps a data location. Data locations are checked and dropped.
-/

namespace FheSolidity

open Text

/-- What a declaration says. -/
structure Declaration where
  /-- The function's name. -/
  name : String
  /-- The types of its inputs. -/
  inputs : List ValueType
  /-- The type of its result. -/
  result : ValueType
  /-- What the first input is. -/
  leading : Leading
  deriving DecidableEq, Repr

namespace Declaration

/-- What the declaration of a signature says. -/
def ofSignature (sig : Signature) : Declaration :=
  ⟨sig.name, sig.inputs, sig.result, sig.leading⟩

/-- The signature that is declared. -/
def toSignature (d : Declaration) : Signature :=
  ⟨d.name, d.inputs, d.result⟩

/-- The words that may stand after a type to say where its value lies. -/
def dataLocations : List String :=
  ["memory", "calldata", "storage"]

/-- The type in a list of words that holds a type and perhaps a data location. -/
def typeOfWords? : List (List Char) → Option ValueType
  | [type] => ValueType.ofName? (String.ofList type)
  | [type, location] =>
    if dataLocations.contains (String.ofList location) then
      ValueType.ofName? (String.ofList type)
    else none
  | _ => none

/-- The type of a parameter, whose last word is its name. -/
def parameter? (text : List Char) : Option ValueType :=
  match (words text).getLast? with
  | some name => if isIdentifier name then typeOfWords? (words text).dropLast else none
  | none => none

/-- The types of a parameter list, in which blanks alone mean no parameters. -/
def parameters? (text : List Char) : Option (List ValueType) :=
  if text.all isBlank then some [] else (pieces (· == ',') text).mapM parameter?

/-- Whether a character is no parenthesis, and so may stand inside one of the two lists. -/
def isListChar (c : Char) : Bool :=
  c != '(' && c != ')'

/-- The three texts that vary in a declaration: the name, the parameters and the result. -/
def parts? (text : List Char) : Option (List Char × List Char × List Char) := do
  let named ← after? "function ".toList text
  let name := named.takeWhile isWordChar
  let listed ← after? "(".toList (named.dropWhile isWordChar)
  let params := listed.takeWhile isListChar
  let returned ← after? (") " ++ visibility ++ " returns (").toList (listed.dropWhile isListChar)
  let result := returned.takeWhile isListChar
  if isFunctionName name && returned.dropWhile isListChar == ");".toList then
    some (name, params, result)
  else none

/-- What a text declares, if it is a declaration. -/
def read? (text : List Char) : Option Declaration := do
  let (name, params, result) ← parts? (trim text)
  let inputs ← parameters? params
  let result ← typeOfWords? (words result)
  return ⟨String.ofList name, inputs, result, .ofInputs inputs⟩

/-- What a text declares. The failure carries the text as it was given. -/
def read (text : String) : Except Failure Declaration :=
  match read? text.toList with
  | some d => .ok d
  | none => .error (.notDeclaration text)

end Declaration

end FheSolidity
