import FheSolidity.Signature.Declaration
import FheSolidity.Proofs.Text.Name
import FheSolidity.Proofs.Traversal
import FheSolidity.Proofs.ValueType

/-!
# The grammar of declarations

`Framed` says how the three varying parts of a declaration stand in its text, and `Says` what the
parts say. Both are relations on texts that mention no reader. The main statement is that the reader
gives what the grammar says, that it rejects every other text with that text, and that no text has
its parts in two ways.

The proof follows the reader inwards. `parts?_eq_some_iff` is about the frame,
`parameters?_eq_some_iff` about the commas, and `parameter?_eq_some_iff` and
`typeOfWords?_eq_some_iff` about the words of one slot. That the parts are unique rests on
`frame_inj`: the parameters and the result have no parentheses, so the last opening parenthesis
stands before the result and the last but one before the parameters.
-/

namespace FheSolidity.Declaration

open Text

/-! ## The grammar -/

/-- Some words spell a type: its name, and perhaps a data location after it. -/
inductive TypeWords : List (List Char) → ValueType → Prop
  /-- The name alone. -/
  | bare (t : ValueType) : TypeWords [t.name.toList] t
  /-- The name before a data location. -/
  | located (t : ValueType) (location : String)
    (h : location ∈ ["memory", "calldata", "storage"]) :
    TypeWords [t.name.toList, location.toList] t

/-- A result is the words of a type. -/
def ResultText (text : List Char) (t : ValueType) : Prop :=
  ∃ ws, TypeWords ws t ∧ Spaced ws text

/-- A parameter is the words of a type before an identifier. -/
def ParameterText (text : List Char) (t : ValueType) : Prop :=
  ∃ ws name, TypeWords ws t ∧ IsIdentifier name ∧ Spaced (ws ++ [name]) text

/-- A parameter list is blank, or has a parameter between any two commas and at its two ends. -/
inductive ParametersText (text : List Char) : List ValueType → Prop
  /-- Blanks alone mean no parameters. -/
  | blank (h : ∀ c ∈ text, isBlank c = true) : ParametersText text []
  /-- The parameters are split at every comma. -/
  | split {types : List ValueType} (h : List.Forall₂ ParameterText (text.splitOn ',') types) :
    ParametersText text types

/-- A text has no parentheses. -/
def NoParens (text : List Char) : Prop :=
  '(' ∉ text ∧ ')' ∉ text

/-- The text of a declaration around its name, its parameters and its result. -/
def frame (name params result : List Char) : List Char :=
  "function ".toList ++ name ++ "(".toList ++ params ++ ") internal pure returns (".toList ++
    result ++ ");".toList

/-- A text is framed as a declaration around three parts, with nothing but blanks outside. -/
structure Framed (text name params result : List Char) : Prop where
  /-- The frame stands between blanks. -/
  text_eq : ∃ before after, (∀ c ∈ before, isBlank c = true) ∧ (∀ c ∈ after, isBlank c = true) ∧
    text = before ++ frame name params result ++ after
  /-- The name is the name of a function. -/
  name : IsFunctionName name
  /-- The parameters have no parentheses. -/
  params : NoParens params
  /-- The result has no parentheses. -/
  result : NoParens result

/-- What the three parts of a declaration say. -/
structure Says (d : Declaration) (name params result : List Char) : Prop where
  /-- The name is the first part. -/
  name : d.name = String.ofList name
  /-- The inputs are the types of the parameters in their order. -/
  inputs : ParametersText params d.inputs
  /-- The result is the type of the last part. -/
  result : ResultText result d.result
  /-- What the first input is follows from the inputs. -/
  leading : d.leading = .ofInputs d.inputs

/-! ## The frame -/

/-- The characters of the two lists are those that are no parentheses. -/
theorem isListChar_iff {c : Char} : isListChar c = true ↔ c ≠ '(' ∧ c ≠ ')' := by
  rw [isListChar, Bool.and_eq_true, bne_iff_ne, bne_iff_ne]

/-- A text of list characters is one without parentheses. -/
theorem forall_isListChar_iff {text : List Char} :
    (∀ c ∈ text, isListChar c = true) ↔ NoParens text := by
  simp only [isListChar_iff]
  constructor
  · intro h
    exact ⟨fun hmem => (h _ hmem).1 rfl, fun hmem => (h _ hmem).2 rfl⟩
  · intro h c hc
    obtain ⟨hopen, hclose⟩ := h
    exact ⟨fun h => hopen (h ▸ hc), fun h => hclose (h ▸ hc)⟩

/-- The part of a text before its first parenthesis has none. -/
theorem noParens_takeWhile (text : List Char) : NoParens (text.takeWhile isListChar) :=
  forall_isListChar_iff.1 (List.all_eq_true.1 List.all_takeWhile)

/-- The parts of a framed text are what the reader takes out of it. -/
theorem parts?_frame {name params result : List Char} (hname : IsFunctionName name)
    (hparams : NoParens params) (hresult : NoParens result) :
    parts? (frame name params result) = some (name, params, result) := by
  have hn := hname.all_isWordChar
  have hp := forall_isListChar_iff.2 hparams
  have hr := forall_isListChar_iff.2 hresult
  -- What is left of the text behind each of the fixed words.
  have h1 : after? "function ".toList (frame name params result) =
      some (name ++ '(' :: (params ++ ')' :: (" internal pure returns (".toList ++
        (result ++ ")".toList ++ ";".toList)))) := by
    refine after?_eq_some_iff.2 ?_
    unfold frame
    simp
  have h2 : ∀ rest, after? "(".toList ('(' :: rest) = some rest := by
    intro rest
    exact after?_eq_some_iff.2 rfl
  have h3 : ∀ rest, after? (") " ++ visibility ++ " returns (").toList
      (')' :: (" internal pure returns (".toList ++ rest)) = some rest := by
    intro rest
    exact after?_eq_some_iff.2 rfl
  have htake : (result ++ ")".toList ++ ";".toList).takeWhile isListChar = result := by
    rw [List.append_assoc]
    exact takeWhile_append_cons hr rfl
  have hdrop : (result ++ ")".toList ++ ";".toList).dropWhile isListChar = ");".toList := by
    rw [List.append_assoc]
    exact dropWhile_append_cons hr rfl
  simp only [parts?, bind, h1, Option.bind_some, takeWhile_append_cons hn isWordChar_paren,
    dropWhile_append_cons hn isWordChar_paren, h2,
    takeWhile_append_cons hp (show isListChar ')' = false from rfl),
    dropWhile_append_cons hp (show isListChar ')' = false from rfl), h3, htake, hdrop,
    isFunctionName_iff.2 hname, beq_self_eq_true, Bool.and_self, if_true]

/-- The reader takes three parts out of a text exactly if they are framed by it. -/
theorem parts?_eq_some_iff {text name params result : List Char} :
    parts? text = some (name, params, result) ↔
      text = frame name params result ∧ IsFunctionName name ∧ NoParens params ∧
        NoParens result := by
  constructor
  · intro h
    simp only [parts?, bind, Option.bind_eq_some_iff, after?_eq_some_iff,
      Option.ite_none_right_eq_some, Option.some.injEq, Prod.mk.injEq, Bool.and_eq_true,
      beq_iff_eq] at h
    obtain ⟨named, rfl, listed, hlisted, returned, hreturned, ⟨hname, hend⟩, rfl, rfl, rfl⟩ := h
    refine ⟨?_, isFunctionName_iff.1 hname, noParens_takeWhile listed, noParens_takeWhile returned⟩
    -- Each part is followed by what the reader found behind it.
    have hvisible : (") " ++ visibility ++ " returns (").toList =
        ") internal pure returns (".toList := rfl
    have hnamed : named = named.takeWhile isWordChar ++ ("(".toList ++ listed) := by
      rw [← hlisted, List.takeWhile_append_dropWhile]
    have hlist : listed = listed.takeWhile isListChar ++
        (") internal pure returns (".toList ++ returned) := by
      rw [← hvisible, ← hreturned, List.takeWhile_append_dropWhile]
    have hreturn : returned = returned.takeWhile isListChar ++ ");".toList := by
      rw [← hend, List.takeWhile_append_dropWhile]
    unfold frame
    calc "function ".toList ++ named
      _ = "function ".toList ++ (named.takeWhile isWordChar ++ ("(".toList ++ listed)) := by
          rw [← hnamed]
      _ = "function ".toList ++ (named.takeWhile isWordChar ++ ("(".toList ++
            (listed.takeWhile isListChar ++ (") internal pure returns (".toList ++
              (returned.takeWhile isListChar ++ ");".toList))))) := by
          rw [← hreturn, ← hlist]
      _ = _ := by simp only [List.append_assoc]
  · intro h
    obtain ⟨rfl, hname, hparams, hresult⟩ := h
    exact parts?_frame hname hparams hresult

/-- A framed text without parentheses in its two lists has its parts in one way only, whatever
characters stand in the name. -/
theorem frame_inj {name params result name' params' result' : List Char}
    (hparams : NoParens params) (hresult : NoParens result) (hparams' : NoParens params')
    (hresult' : NoParens result')
    (h : frame name params result = frame name' params' result') :
    name = name' ∧ params = params' ∧ result = result' := by
  -- The last opening parenthesis stands before the result, and then the last one before the
  -- parameters.
  have hsplit : ∀ n p r : List Char, frame n p r = "function ".toList ++
      (((n ++ '(' :: p) ++ ") internal pure returns ".toList) ++ '(' :: (r ++ ");".toList)) := by
    intro n p r
    unfold frame
    simp
  rw [hsplit, hsplit, List.append_cancel_left_eq] at h
  have hlast : ∀ r : List Char, NoParens r → '(' ∉ r ++ ");".toList := by
    intro r hr hmem
    rcases List.mem_append.1 hmem with hmem | hmem
    · exact hr.1 hmem
    · exact absurd hmem (by decide)
  obtain ⟨hfront, hback⟩ := append_cons_inj_of_not_mem (hlast _ hresult) (hlast _ hresult') h
  rw [List.append_cancel_right_eq] at hfront hback
  obtain ⟨hname, hparam⟩ := append_cons_inj_of_not_mem hparams.1 hparams'.1 hfront
  exact ⟨hname, hparam, hback⟩

/-- Blanks around a frame are what trimming takes off. -/
theorem trim_eq_frame_iff {text name params result : List Char} :
    trim text = frame name params result ↔
      ∃ before after, (∀ c ∈ before, isBlank c = true) ∧ (∀ c ∈ after, isBlank c = true) ∧
        text = before ++ frame name params result ++ after := by
  constructor
  · intro h
    obtain ⟨before, after, hbefore, hafter, htext⟩ := exists_trim text
    rw [h] at htext
    exact ⟨before, after, hbefore, hafter, htext⟩
  · intro h
    obtain ⟨before, after, hbefore, hafter, rfl⟩ := h
    -- A frame starts and ends with characters that are not blank.
    have hcore : frame name params result = 'f' :: ("unction ".toList ++ name ++ "(".toList ++
        params ++ ") internal pure returns (".toList ++ result ++ ")".toList) ++ [';'] := by
      unfold frame
      simp
    rw [hcore]
    exact trim_append hbefore hafter (by decide) (by decide)

/-- The reader takes three parts out of the trimmed text exactly if the text is framed around
them. -/
theorem parts?_trim_eq_some_iff {text name params result : List Char} :
    parts? (trim text) = some (name, params, result) ↔ Framed text name params result := by
  rw [parts?_eq_some_iff, trim_eq_frame_iff]
  constructor
  · intro h
    obtain ⟨htext, hname, hparams, hresult⟩ := h
    exact ⟨htext, hname, hparams, hresult⟩
  · intro h
    obtain ⟨htext, hname, hparams, hresult⟩ := h
    exact ⟨htext, hname, hparams, hresult⟩

/-! ## The slots -/

/-- A word spells a type exactly if its characters are those of the type's name. -/
theorem ofName?_ofList_eq_some_iff {word : List Char} {t : ValueType} :
    ValueType.ofName? (String.ofList word) = some t ↔ word = t.name.toList := by
  rw [ValueType.ofName?_eq_some_iff, ← String.toList_inj, String.toList_ofList]

/-- The reader finds a type in some words exactly if they spell it. -/
theorem typeOfWords?_eq_some_iff {ws : List (List Char)} {t : ValueType} :
    typeOfWords? ws = some t ↔ TypeWords ws t := by
  constructor
  · intro h
    unfold typeOfWords? at h
    split at h
    · rw [ofName?_ofList_eq_some_iff.1 h]
      exact TypeWords.bare t
    · next type location =>
      rw [Option.ite_none_right_eq_some] at h
      obtain ⟨hlocation, htype⟩ := h
      rw [ofName?_ofList_eq_some_iff.1 htype,
        show location = (String.ofList location).toList from String.toList_ofList.symm]
      exact TypeWords.located t _ (List.contains_iff_mem.1 hlocation)
    · exact nomatch h
  · intro h
    cases h with
    | bare => exact ofName?_ofList_eq_some_iff.2 rfl
    | located _ location hlocation =>
      show (if dataLocations.contains (String.ofList location.toList) = true then
        ValueType.ofName? (String.ofList t.name.toList) else none) = some t
      have hknown : dataLocations.contains location = true := List.contains_iff_mem.2 hlocation
      rw [String.ofList_toList, if_pos hknown]
      exact ofName?_ofList_eq_some_iff.2 rfl

/-- The reader finds a parameter in a text exactly if it is the text of that parameter. -/
theorem parameter?_eq_some_iff {text : List Char} {t : ValueType} :
    parameter? text = some t ↔ ParameterText text t := by
  constructor
  · intro h
    unfold parameter? at h
    split at h
    · next name hlast =>
      rw [Option.ite_none_right_eq_some] at h
      obtain ⟨hname, htype⟩ := h
      -- The words are those of the type and the last one.
      obtain ⟨ws, hws⟩ := List.getLast?_eq_some_iff.1 hlast
      rw [hws, List.dropLast_concat] at htype
      exact ⟨ws, name, typeOfWords?_eq_some_iff.1 htype, isIdentifier_iff.1 hname,
        words_eq_iff.1 hws⟩
    · exact nomatch h
  · intro h
    obtain ⟨ws, name, htype, hname, hspaced⟩ := h
    unfold parameter?
    rw [words_eq_iff.2 hspaced, List.getLast?_concat, List.dropLast_concat]
    exact (if_pos (isIdentifier_iff.2 hname)).trans (typeOfWords?_eq_some_iff.2 htype)

/-- A blank text is no parameter. -/
theorem not_parameterText_of_blank {text : List Char} (h : ∀ c ∈ text, isBlank c = true)
    (t : ValueType) : ¬ParameterText text t := by
  intro h
  obtain ⟨ws, name, -, -, hspaced⟩ := h
  have hnone : Spaced [] text := by
    clear hspaced
    induction text with
    | nil => exact Spaced.nil
    | cons c text ih =>
      exact Spaced.blank (h c List.mem_cons_self) (ih fun d hd => h d (List.mem_cons_of_mem _ hd))
  have hwords := words_of_spaced hspaced
  rw [words_of_spaced hnone] at hwords
  exact absurd hwords (by simp)

/-- The reader finds some types in a parameter list exactly if it is a list of such parameters. -/
theorem parameters?_eq_some_iff {text : List Char} {types : List ValueType} :
    parameters? text = some types ↔ ParametersText text types := by
  have hpieces : (pieces (· == ',') text).mapM parameter? = some types ↔
      List.Forall₂ ParameterText (text.splitOn ',') types := by
    rw [pieces_eq_splitOnP, mapM_eq_some_iff, List.splitOn_eq_splitOnP]
    simp only [parameter?_eq_some_iff]
  unfold parameters?
  split
  · next hblank =>
    have hall := List.all_eq_true.1 hblank
    constructor
    · intro h
      rw [← Option.some.inj h]
      exact ParametersText.blank hall
    · intro h
      cases h with
      | blank => rfl
      | split h =>
        -- A blank text has no comma, so it would have to be a parameter itself.
        have hcomma : ',' ∉ text := fun hmem => absurd (hall _ hmem) (by decide)
        rw [List.splitOn_eq_singleton hcomma] at h
        cases h with
        | cons hparam _ => exact absurd hparam (not_parameterText_of_blank hall _)
  · next hblank =>
    rw [hpieces]
    constructor
    · exact ParametersText.split
    · intro h
      cases h with
      | blank h => exact absurd (List.all_eq_true.2 h) hblank
      | split h => exact h

/-! ## The reader -/

/-- The reader finds a declaration in a text exactly if the text is framed around three parts that
say so. -/
theorem read?_eq_some_iff {text : List Char} {d : Declaration} :
    read? text = some d ↔
      ∃ name params result, Framed text name params result ∧ Says d name params result := by
  constructor
  · intro h
    simp only [read?, bind, pure, Option.bind_eq_some_iff, Prod.exists, parts?_trim_eq_some_iff,
      parameters?_eq_some_iff, typeOfWords?_eq_some_iff, Option.some.injEq] at h
    obtain ⟨name, params, result, hframed, inputs, hinputs, t, ht, rfl⟩ := h
    exact ⟨name, params, result, hframed, rfl, hinputs, ⟨words result, ht, spaced_words result⟩,
      rfl⟩
  · intro h
    obtain ⟨name, params, result, hframed, hname, hinputs, ⟨ws, ht, hspaced⟩, hleading⟩ := h
    simp only [read?, bind, pure, parts?_trim_eq_some_iff.2 hframed,
      parameters?_eq_some_iff.2 hinputs, words_of_spaced hspaced, typeOfWords?_eq_some_iff.2 ht,
      Option.bind_some, ← hname, ← hleading]

/-- The reader accepts a text exactly if it finds a declaration in its characters. -/
theorem read_eq_ok_iff {text : String} {d : Declaration} :
    read text = .ok d ↔ read? text.toList = some d := by
  unfold read
  split
  · next h => rw [h, Except.ok.injEq, Option.some.injEq]
  · next h => rw [h]; simp

/-- The reader rejects a text with that text, and exactly if it finds no declaration in it. -/
theorem read_eq_error_iff {text : String} {e : Failure} :
    read text = .error e ↔ e = .notDeclaration text ∧ read? text.toList = none := by
  unfold read
  split
  · next h => rw [h]; simp
  · next h => rw [h, Except.error.injEq]; simp [eq_comm]

/-- The parts of a framed text are unique. -/
theorem Framed.unique {text name params result name' params' result' : List Char}
    (h : Framed text name params result) (h' : Framed text name' params' result') :
    name = name' ∧ params = params' ∧ result = result' := by
  have htrim := trim_eq_frame_iff.2 h.text_eq
  rw [trim_eq_frame_iff.2 h'.text_eq] at htrim
  exact frame_inj h.params h.result h'.params h'.result htrim.symm

/-- The reader accepts exactly the grammar: it gives what a framed text says, it rejects every other
text with that very text, and no text has two triples of parts. -/
theorem read_eq_iff_framed (text : String) :
    (∀ d, read text = .ok d ↔
      ∃ name params result, Framed text.toList name params result ∧ Says d name params result) ∧
    (∀ e, read text = .error e ↔ e = .notDeclaration text ∧
      ¬∃ d name params result, Framed text.toList name params result ∧
        Says d name params result) ∧
    (∀ name params result name' params' result', Framed text.toList name params result →
      Framed text.toList name' params' result' →
      name = name' ∧ params = params' ∧ result = result') := by
  refine ⟨?_, ?_, ?_⟩
  · intro d
    rw [read_eq_ok_iff, read?_eq_some_iff]
  · intro e
    rw [read_eq_error_iff, Option.eq_none_iff_forall_ne_some]
    simp only [ne_eq, read?_eq_some_iff, not_exists]
  · intro name params result name' params' result' h h'
    exact h.unique h'

/-- A parameter may be named like a data location, and a location may stand where none is needed. -/
theorem framed_add_declaration :
    Framed " function add(euint8 storage a,\tbytes memory) internal pure returns (ebool);\n".toList
        "add".toList "euint8 storage a,\tbytes memory".toList "ebool".toList ∧
      Says ⟨"add", [⟨true, .uint8⟩, .bytes], .ebool, .encrypted⟩
        "add".toList "euint8 storage a,\tbytes memory".toList "ebool".toList := by
  have hframed : Framed
      " function add(euint8 storage a,\tbytes memory) internal pure returns (ebool);\n".toList
      "add".toList "euint8 storage a,\tbytes memory".toList "ebool".toList :=
    ⟨⟨[' '], ['\n'], List.all_eq_true.1 (by decide), List.all_eq_true.1 (by decide), by decide⟩,
      isFunctionName_iff.1 (by decide +kernel),
      ⟨by decide, by decide⟩, ⟨by decide, by decide⟩⟩
  obtain ⟨name, params, result, hparts, hcontent⟩ := ((read_eq_iff_framed _).1 _).1
    (read_eq_ok_iff.2 (by decide +kernel :
      read? " function add(euint8 storage a,\tbytes memory) internal pure returns (ebool);\n".toList
        = some ⟨"add", [⟨true, .uint8⟩, .bytes], .ebool, .encrypted⟩))
  obtain ⟨rfl, rfl, rfl⟩ := (read_eq_iff_framed _).2.2 _ _ _ _ _ _ hparts hframed
  exact ⟨hframed, hcontent⟩

end FheSolidity.Declaration
