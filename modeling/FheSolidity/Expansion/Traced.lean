import FheSolidity.Expansion
import FheSolidity.Traced

/-!
# Expansion with a record

An expansion that succeeds leaves one event: how many overloads there are, or the first parameter
without candidates, which is why there are none.
-/

namespace FheSolidity

namespace Operation

/-- The events of an expansion over given encrypted and plaintext types. -/
def expansionEvents (op : Operation) (encrypted plaintext : List ValueType) : List Event :=
  match (op.candidatesIn encrypted plaintext).findIdx? List.isEmpty with
  | some parameter => [.noCandidates op.name parameter]
  | none =>
    match op.expandIn encrypted plaintext with
    | .ok signatures => [.expanded op.name signatures.length]
    | .error _ => []

/-- The overloads of an operation over given types, with a record. -/
def traceExpandIn (op : Operation) (encrypted plaintext : List ValueType) :
    Traced Failure (List Signature) :=
  ⟨op.expansionEvents encrypted plaintext, op.expandIn encrypted plaintext⟩

/-- The overloads of an operation, with a record. -/
def traceExpand (op : Operation) : Traced Failure (List Signature) :=
  op.traceExpandIn ValueType.encryptedTypes ValueType.plaintextTypes

end Operation

/-- The overloads of several operations, in their order, with a record. -/
def traceExpandAll (ops : List Operation) : Traced Failure (List Signature) := do
  let families ← ops.mapM Operation.traceExpand
  return families.flatten

end FheSolidity
