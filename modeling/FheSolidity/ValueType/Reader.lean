import FheSolidity.Json.Object
import FheSolidity.ValueType

/-!
# Types in JSON

A type is written in JSON as its name. It may also be written as an object with the name as its
only key and null as the value.
-/

namespace FheSolidity.ValueType

open Json

/-- The type that a name in a document stands for. -/
def named (name : String) : Except Fault ValueType :=
  match ofName? name with
  | some t => .ok t
  | none => .error .mistyped

/-- Reads the object that stands for a type, after its opening brace. An unknown name is refused
before the colon is looked at. -/
def readTagged (ts : List Token) : Except Fault (ValueType × List Token) := do
  let (key, rest) ← Reader.readKey ts
  let t ← named key
  let rest ← readToken .colon rest
  let (_, rest) ← Reader.null.read rest
  let rest ← readToken .closeBrace rest
  return (t, rest)

theorem length_readTagged {ts rest : List Token} {t : ValueType}
    (h : readTagged ts = .ok (t, rest)) : rest.length < ts.length := by
  simp only [readTagged, bind_eq_ok, pure, Except.pure, Except.ok.injEq, Prod.mk.injEq] at h
  grind [→ Reader.length_readKey, → Reader.shrinks, → length_readToken]

/-- Reads a type. Of all that is no type, a text or an object decides its own fault, and anything
else is malformed. -/
def reader : Reader ValueType where
  read
    | [] => .error .truncated
    | .openBrace :: ts => readTagged ts
    | .text word :: ts => (Reader.text.check named).read (.text word :: ts)
    | .brokenText fault :: _ => .error fault
    | _ :: _ => .error .malformed
  shrinks h := by grind [→ length_readTagged, → Reader.shrinks]

end FheSolidity.ValueType
