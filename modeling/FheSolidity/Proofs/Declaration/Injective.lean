import FheSolidity.Proofs.Declaration.RoundTrip

/-!
# Declarations tell signatures apart

Names are arbitrary texts, so a declaration cannot in general be read back. It is nevertheless the
declaration of one signature only. Its text is framed, and a frame has no parentheses behind the
name but its own, so its last two opening parentheses tell where the name, the parameter list and
the result end, whatever the name contains (`frame_inj`). The types are then read off the parameter
list and the result, which no name can reach.
-/

namespace FheSolidity

open Text Declaration

/-- A type as declared tells the type. -/
theorem ValueType.declared_injective {t u : ValueType} (h : t.declared = u.declared) : t = u := by
  obtain ⟨ws, hws, hspaced⟩ := resultText_declared t
  obtain ⟨ws', hws', hspaced'⟩ := resultText_declared u
  rw [← h] at hspaced'
  -- One text has one list of words, and these spell one type.
  have hwords : ws = ws' := (words_of_spaced hspaced).symm.trans (words_of_spaced hspaced')
  have htype := typeOfWords?_eq_some_iff.2 hws
  rw [hwords, typeOfWords?_eq_some_iff.2 hws', Option.some.injEq] at htype
  exact htype.symm

namespace Signature

/-- A parameter list tells the types of the inputs. -/
theorem inputs_eq_of_parameterList_eq {s t : Signature} (h : s.parameterList = t.parameterList) :
    s.inputs = t.inputs := by
  have hinputs := parameters?_eq_some_iff.2 (parametersText_parameterList s)
  rw [h, parameters?_eq_some_iff.2 (parametersText_parameterList t), Option.some.injEq] at hinputs
  exact hinputs.symm

/-- Two signatures of one declaration are the same. -/
theorem eq_of_declaration_eq {s t : Signature} (h : s.declaration = t.declaration) : s = t := by
  have hframe : frame s.name.toList s.parameterList.toList s.result.declared.toList =
      frame t.name.toList t.parameterList.toList t.result.declared.toList := by
    rw [← toList_declaration, ← toList_declaration, h]
  obtain ⟨hname, hparameters, hresult⟩ := frame_inj (noParens_parameterList s)
    (noParens_declared s.result) (noParens_parameterList t) (noParens_declared t.result) hframe
  have hinputs := inputs_eq_of_parameterList_eq (String.toList_injective hparameters)
  have htype := ValueType.declared_injective (String.toList_injective hresult)
  obtain ⟨name, inputs, result⟩ := s
  obtain ⟨name', inputs', result'⟩ := t
  rw [show name = name' from String.toList_injective hname, show inputs = inputs' from hinputs,
    show result = result' from htype]

/-- Two signatures of one header are the same. -/
theorem eq_of_header_eq {s t : Signature} (h : s.header = t.header) : s = t := by
  apply eq_of_declaration_eq
  rw [declaration, declaration, h]

/-- The declaration of a signature determines the signature, whatever its name contains, and so does
its header. -/
theorem declaration_determines (s t : Signature) :
    (s.declaration = t.declaration ↔ s = t) ∧ (s.header = t.header ↔ s = t) :=
  ⟨⟨eq_of_declaration_eq, congrArg declaration⟩, ⟨eq_of_header_eq, congrArg header⟩⟩

end Signature

end FheSolidity
