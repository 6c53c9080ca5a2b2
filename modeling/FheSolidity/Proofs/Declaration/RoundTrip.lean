import FheSolidity.Proofs.Declaration.Grammar
import FheSolidity.Proofs.Signature

/-!
# Declarations read back

The declaration of a signature is framed around the signature's name, its parameter list and its
result, and the last two always say the right types (`parametersText_parameterList`,
`resultText_declared`). So reading a declaration back succeeds exactly if the name is that of a
function. Any other name, whatever text it imitates, would have to be framed a second time, which
`frame_inj` excludes.
-/

namespace FheSolidity.Declaration

open Text Signature

/-! ## Types and parameters -/

/-- A type as declared spells the type. -/
theorem resultText_declared (t : ValueType) : ResultText t.declared.toList t := by
  unfold ValueType.declared ValueType.dataLocation?
  split
  · next location h =>
    rw [Option.ite_none_right_eq_some, Option.some.injEq] at h
    obtain ⟨-, rfl⟩ := h
    have hmemory : IsWord "memory".toList :=
      isWord_of_isAlphanum (by decide) (List.all_eq_true.1 (by decide))
    refine ⟨_, TypeWords.located t "memory" (by decide), ?_⟩
    rw [String.toList_append, String.toList_append, List.append_assoc]
    exact Spaced.word t.isWord_name rfl (Spaced.last hmemory)
  · exact ⟨_, TypeWords.bare t, Spaced.last t.isWord_name⟩

/-- Words before a blank and a further word. -/
theorem spaced_concat {ws : List (List Char)} {text word : List Char} {c : Char}
    (h : Spaced ws text) (hc : isBlank c = true) (hword : IsWord word) :
    Spaced (ws ++ [word]) (text ++ c :: word) := by
  induction h with
  | nil => exact Spaced.blank hc (Spaced.last hword)
  | blank hd _ ih => exact Spaced.blank hd ih
  | last hfirst => exact Spaced.word hfirst hc (Spaced.last hword)
  | word hfirst hd _ ih =>
    rw [List.append_assoc]
    exact Spaced.word hfirst hd ih

/-- A parameter as it stands in a declaration is the text of a parameter of its type. -/
theorem parameterText_parameterText (t : ValueType) (i : Nat) :
    ParameterText (parameterText t i) t := by
  obtain ⟨ws, htype, hspaced⟩ := resultText_declared t
  exact ⟨ws, (inputName i).toList, htype, isIdentifier_inputName i,
    spaced_concat hspaced (by decide) (isWord_inputName i)⟩

/-- A space before a parameter changes nothing. -/
theorem parameterText_space {text : List Char} {t : ValueType} (h : ParameterText text t) :
    ParameterText (' ' :: text) t := by
  obtain ⟨ws, name, htype, hname, hspaced⟩ := h
  exact ⟨ws, name, htype, hname, Spaced.blank (by decide) hspaced⟩

/-- The parameters from some position on are texts of parameters of the types of the inputs. -/
theorem forall₂_parameterText (inputs : List ValueType) (k : Nat) :
    List.Forall₂ ParameterText
      ((inputs.zipIdx k).map fun (t, i) => ' ' :: parameterText t i) inputs := by
  induction inputs generalizing k with
  | nil => exact List.Forall₂.nil
  | cons t inputs ih =>
    exact List.Forall₂.cons (parameterText_space (parameterText_parameterText t k)) (ih (k + 1))

/-- A parameter has no comma. -/
theorem comma_not_mem_parameterText (t : ValueType) (i : Nat) : ',' ∉ parameterText t i := by
  intro h
  exact absurd (mem_parameterText h) (by decide)

/-- The parameter list of a signature is a list of parameters of the types of its inputs. -/
theorem parametersText_parameterList (sig : Signature) :
    ParametersText sig.parameterList.toList sig.inputs := by
  rw [toList_parameterList]
  cases hinputs : sig.inputs with
  | nil => exact ParametersText.blank (by simp)
  | cons t inputs =>
    apply ParametersText.split
    rw [List.zipIdx_cons, List.map_cons, intercalate_comma_space, List.map_map,
      List.splitOn_intercalate]
    · exact List.Forall₂.cons (parameterText_parameterText t 0) (forall₂_parameterText inputs 1)
    · intro piece hpiece
      rcases List.mem_cons.1 hpiece with rfl | hpiece
      · exact comma_not_mem_parameterText t 0
      · rw [List.mem_map] at hpiece
        obtain ⟨⟨u, i⟩, -, rfl⟩ := hpiece
        intro hmem
        rcases List.mem_cons.1 hmem with h | h
        · exact absurd h (by decide)
        · exact comma_not_mem_parameterText u i h
    · exact List.cons_ne_nil _ _

/-! ## The declaration of a signature -/

/-- ASCII letters, digits, spaces and commas are no parentheses. -/
theorem noParens_of_forall {text : List Char}
    (h : ∀ c ∈ text, c.isAlphanum = true ∨ c = ' ' ∨ c = ',') : NoParens text := by
  refine ⟨fun hmem => ?_, fun hmem => ?_⟩
  · exact absurd (h _ hmem) (by decide)
  · exact absurd (h _ hmem) (by decide)

/-- A type as declared has no parentheses. -/
theorem noParens_declared (t : ValueType) : NoParens t.declared.toList := by
  apply noParens_of_forall
  intro c hc
  rcases mem_declared t c hc with h | h
  · exact .inl h
  · exact .inr (.inl h)

/-- A parameter list has no parentheses. -/
theorem noParens_parameterList (sig : Signature) : NoParens sig.parameterList.toList :=
  noParens_of_forall fun _ => mem_parameterList

/-- The declaration of a signature is the frame around its name, its parameter list and its
result. -/
theorem toList_declaration (sig : Signature) :
    sig.declaration.toList =
      frame sig.name.toList sig.parameterList.toList sig.result.declared.toList := by
  unfold Signature.declaration Signature.header frame visibility
  simp

/-- The declaration of a signature says what the signature is. -/
theorem says_ofSignature (sig : Signature) :
    Says (ofSignature sig) sig.name.toList sig.parameterList.toList
      sig.result.declared.toList where
  name := String.ofList_toList.symm
  inputs := parametersText_parameterList sig
  result := resultText_declared sig.result
  leading := rfl

/-- The declaration of a signature is framed around its own parts if the name is that of a
function. -/
theorem framed_declaration {sig : Signature} (h : IsFunctionName sig.name.toList) :
    Framed sig.declaration.toList sig.name.toList sig.parameterList.toList
      sig.result.declared.toList where
  text_eq := ⟨[], [], by simp, by simp, by rw [toList_declaration]; simp⟩
  name := h
  params := noParens_parameterList sig
  result := noParens_declared sig.result

/-- The declaration of a signature is framed around no parts but its own, and then its name is that
of a function. -/
theorem isFunctionName_of_framed {sig : Signature} {name params result : List Char}
    (h : Framed sig.declaration.toList name params result) : IsFunctionName sig.name.toList := by
  have htrim := trim_eq_frame_iff.2 h.text_eq
  -- The declaration is framed around its own parts, too, and these are the same.
  have hown : trim sig.declaration.toList =
      frame sig.name.toList sig.parameterList.toList sig.result.declared.toList :=
    trim_eq_frame_iff.2 ⟨[], [], by simp, by simp, by rw [toList_declaration]; simp⟩
  rw [hown] at htrim
  obtain ⟨hname, -, -⟩ := frame_inj (noParens_parameterList sig) (noParens_declared sig.result)
    h.params h.result htrim
  rw [hname]
  exact h.name

/-- The declaration of a signature is read back if its name is that of a function. -/
theorem read_declaration_of_isFunctionName {sig : Signature} (h : IsFunctionName sig.name.toList) :
    read sig.declaration = .ok (ofSignature sig) :=
  read_eq_ok_iff.2 (read?_eq_some_iff.2
    ⟨_, _, _, framed_declaration h, says_ofSignature sig⟩)

/-- The name of a declaration that was read is that of a function, and what the first input is
follows from the inputs, so the declaration is that of its own signature. -/
theorem ofSignature_toSignature {text : String} {d : Declaration} (h : read text = .ok d) :
    IsFunctionName d.toSignature.name.toList ∧ ofSignature d.toSignature = d := by
  obtain ⟨name, params, result, hframed, hcontent⟩ := read?_eq_some_iff.1 (read_eq_ok_iff.1 h)
  obtain ⟨dname, inputs, dresult, leading⟩ := d
  have hname : dname = String.ofList name := hcontent.name
  have hleading : leading = .ofInputs inputs := hcontent.leading
  constructor
  · show IsFunctionName dname.toList
    rw [hname, String.toList_ofList]
    exact hframed.name
  · rw [hleading]
    rfl

/-- Reading the declaration of a signature succeeds exactly if the signature's name is that of a
function. It then says what the signature is, and otherwise fails with the declaration. Declaring
again what was read from any text is read as the same. -/
theorem read_declaration (sig : Signature) :
    ((∃ d, read sig.declaration = .ok d) ↔ IsFunctionName sig.name.toList) ∧
    (∀ d, read sig.declaration = .ok d → d = ofSignature sig ∧ d.toSignature = sig) ∧
    (∀ e, read sig.declaration = .error e → e = .notDeclaration sig.declaration) ∧
    (∀ text d, read text = .ok d → read d.toSignature.declaration = .ok d) := by
  have hname : ∀ d, read sig.declaration = .ok d → IsFunctionName sig.name.toList := by
    intro d hd
    obtain ⟨_, _, _, hframed, -⟩ := read?_eq_some_iff.1 (read_eq_ok_iff.1 hd)
    exact isFunctionName_of_framed hframed
  refine ⟨⟨?_, ?_⟩, ?_, ?_, ?_⟩
  · intro h
    obtain ⟨d, hd⟩ := h
    exact hname d hd
  · intro h
    exact ⟨_, read_declaration_of_isFunctionName h⟩
  · intro d hd
    have hread := read_declaration_of_isFunctionName (hname d hd)
    rw [hd, Except.ok.injEq] at hread
    rw [hread]
    exact ⟨rfl, rfl⟩
  · intro e he
    exact (read_eq_error_iff.1 he).1
  · intro text d hd
    obtain ⟨hfunction, hback⟩ := ofSignature_toSignature hd
    rw [read_declaration_of_isFunctionName hfunction, hback]

/-- A name that imitates a whole declaration is refused, and a plain one is read back. -/
theorem read_select_declaration :
    read (Signature.mk "f() internal pure returns (bool);\nfunction g" [] .bool).declaration =
      .error (.notDeclaration
        "function f() internal pure returns (bool);\nfunction g() internal pure returns (bool);") ∧
    read (Signature.mk "select" [.ebool, .bytes, ⟨true, .uint8⟩] .ebytes).declaration =
      .ok ⟨"select", [.ebool, .bytes, ⟨true, .uint8⟩], .ebytes, .encrypted⟩ := by
  constructor
  · have hname : ¬IsFunctionName "f() internal pure returns (bool);\nfunction g".toList := by
      rw [← isFunctionName_iff]
      decide +kernel
    cases hread : read
        (Signature.mk "f() internal pure returns (bool);\nfunction g" [] .bool).declaration with
    | ok d => exact absurd ((read_declaration _).1.1 ⟨d, hread⟩) hname
    | error e =>
      rw [(read_declaration _).2.2.1 e hread]
      rfl
  · have hname : IsFunctionName "select".toList := isFunctionName_iff.1 (by decide +kernel)
    obtain ⟨d, hd⟩ :=
      (read_declaration ⟨"select", [.ebool, .bytes, ⟨true, .uint8⟩], .ebytes⟩).1.2 hname
    obtain ⟨hcontent, hsignature⟩ := (read_declaration _).2.1 d hd
    have hagain := (read_declaration d.toSignature).2.2.2 _ d hd
    rw [hsignature] at hagain
    rw [hagain, hcontent]
    rfl

end FheSolidity.Declaration
