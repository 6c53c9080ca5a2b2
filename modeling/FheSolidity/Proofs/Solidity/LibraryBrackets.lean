import FheSolidity.Proofs.Solidity.Brackets
import FheSolidity.Proofs.Solidity.Library
import FheSolidity.Proofs.Solidity.Symbol

/-!
# Brackets in the library

Whatever the library holds besides the functions of the signatures is paired: the conversions
(`paired_of_mem_castFunctions`), the declarations of symbols (`paired_of_mem_symbolsOn`) and the
libraries of methods (`Binding.paired_libraryCode`). The preamble leaves one brace open, that of the
library `FHE` (`Preamble.openAfter_code`), which the end of that library closes. So the functions
and the conversions stand inside one brace, and what follows stands inside none
(`depths_of_libraryText`).
-/

namespace FheSolidity

open Text

/-! ## Conversions -/

namespace Cast

/-- The head of a conversion is paired. -/
theorem paired_header (c : Cast) : Paired c.header := by
  unfold header visibility Paired
  simp only [String.toList_append, openAfter_append, c.target.paired_name.openAfter,
    c.target.unbracketed_castName.paired.openAfter, c.source.paired_declared.openAfter]
  rfl

/-- The body of a conversion is paired. -/
theorem paired_body (c : Cast) : c.body.Paired := by
  have hcast := c.target.unbracketed_castName.paired
  unfold body
  split
  · refine ((Code.paired_line (by decide)).append ?_).append (Code.paired_line ?_)
    · exact Code.paired_block (by decide) (Code.paired_line (by decide))
    · unfold Paired
      simp only [String.toList_append, openAfter_append, hcast.openAfter]
      rfl
  · apply Code.paired_line
    unfold Paired
    split_ifs
    all_goals
      simp only [String.toList_append, openAfter_append, c.target.paired_name.openAfter,
        c.source.paired_name.openAfter, c.target.paired_constant.openAfter,
        c.source.paired_constant.openAfter]
      rfl

/-- A conversion function is paired. -/
theorem paired_functionCode (c : Cast) : c.functionCode.Paired := by
  have hcomment : Paired ("/// @notice Converts a " ++ c.source.name ++ " to an " ++
      c.target.name) :=
    (((by decide : Paired "/// @notice Converts a ").append c.source.paired_name).append
      (by decide)).append c.target.paired_name
  exact Code.paired_blank.append (Code.paired_indent ((Code.paired_line hcomment).append
    (Code.paired_block c.paired_header c.paired_body)))

end Cast

/-- Every conversion function is paired. -/
theorem paired_of_mem_castFunctions {text : String} (h : text ∈ castFunctions) : Paired text := by
  obtain ⟨c, -, rfl⟩ := List.mem_map.1 h
  exact Code.paired_render.2 c.paired_functionCode

/-! ## Wrappers -/

variable {operation symbol : String}

/-- The parameters of a wrapper are paired. -/
theorem paired_operandParameters (t : ValueType) (unary : Bool) :
    Paired (operandParameters t unary) := by
  unfold operandParameters
  split
  · exact t.paired_name.append (by decide)
  · exact ((t.paired_name.append (by decide)).append t.paired_name).append (by decide)

/-- The comment before a wrapper is paired if the name of its operation is. -/
theorem paired_wrapperComment (h : Paired operation) : (wrapperComment operation).Paired :=
  Code.paired_line (((by decide : Paired "/// @notice Performs the ").append h).append (by decide))

/-- The body of a wrapper is paired if the name of its operation is. -/
theorem paired_wrapperBody (h : Paired operation) (unary : Bool) :
    (wrapperBody operation unary).Paired := by
  have hnames : Paired (operandNames unary) := by
    cases unary <;> decide
  apply Code.paired_line
  unfold Paired
  simp only [String.toList_append, openAfter_append, h.openAfter, hnames.openAfter]
  rfl

/-- The declaration of a symbol is paired if the symbol is and the name of its operation has no
brackets. -/
theorem paired_symbolCode (hoperation : Unbracketed operation) (hsymbol : Paired symbol)
    (t : ValueType) (unary returnsBool : Bool) :
    (symbolCode operation symbol t unary returnsBool).Paired := by
  have hname : Paired (overloadName operation t) :=
    (((by decide : Unbracketed "operator").append hoperation.capitalize).append
      t.unbracketed_capitalized).paired
  have hparameters := paired_operandParameters t unary
  have hresult := (operandResult t returnsBool).paired_name
  refine ((Code.paired_blank.append (Code.paired_line ?_)).append
    (paired_wrapperComment hoperation.paired)).append
      (Code.paired_block ?_ (paired_wrapperBody hoperation.paired unary))
  · unfold Paired
    simp only [String.toList_append, openAfter_append, hname.openAfter, hsymbol.openAfter,
      t.paired_name.openAfter]
    rfl
  · unfold Paired
    simp only [String.toList_append, openAfter_append, hname.openAfter, hparameters.openAfter,
      hresult.openAfter]
    rfl

/-- Every declaration of a symbol is paired. -/
theorem paired_of_mem_symbolsOn {types : List ValueType} {symbols : List String}
    (h : symbolsOn types = .ok symbols) (htypes : ∀ t ∈ types, t.encrypted = true) {text : String}
    (htext : text ∈ symbols) : Paired text := by
  have hall : ∀ op ∈ Shorthand.all, Unbracketed op.name ∧ ∀ symbol ∈ op.symbol, Paired symbol := by
    decide +kernel
  obtain rfl := Except.ok.inj ((symbolsOn_eq_ok htypes).symm.trans h)
  obtain ⟨op, hop, htext⟩ := List.mem_flatMap.1 htext
  obtain ⟨symbol, hsymbol, t, -, -, rfl⟩ := Shorthand.mem_declarations_iff.1 htext
  obtain ⟨hname, hsymbols⟩ := hall op hop
  exact Code.paired_render.2
    (paired_symbolCode hname (hsymbols symbol hsymbol) t op.unary op.returnsBool)

/-! ## Methods -/

namespace Binding

/-- The name of a library of methods is paired. -/
theorem paired_libraryName (t : ValueType) : Paired (libraryName t) :=
  ((by decide : Unbracketed "Bindings").append t.unbracketed_capitalized).paired

/-- A method is paired if the name of its operation is. -/
theorem paired_methodCode {b : Binding} (h : Paired b.operation) (t : ValueType) :
    (b.methodCode t).Paired := by
  have hparameters := paired_operandParameters t b.unary
  have hresult := (operandResult t b.returnsBool).paired_name
  have hheader : Paired (b.header t) := by
    unfold header visibility Paired
    simp only [String.toList_append, openAfter_append, h.openAfter, hparameters.openAfter,
      hresult.openAfter]
    rfl
  exact Code.paired_blank.append (Code.paired_indent ((paired_wrapperComment h).append
    (Code.paired_block hheader (paired_wrapperBody h b.unary))))

/-- Every method performs one of the operations that may have methods. -/
theorem operation_mem_of_mem_find {t : ValueType} {sigs : List Signature} {b : Binding}
    (h : b ∈ find t sigs) : b.operation ∈ methodOperations := by
  obtain ⟨operation, hoperation, h⟩ := List.mem_filterMap.1 h
  unfold find? at h
  split at h
  · next sig hsig =>
    obtain ⟨-, h⟩ := Option.ite_none_right_eq_some.1 h
    obtain rfl := Option.some.inj h
    have hname := List.find?_some hsig
    rw [Bool.and_eq_true, beq_iff_eq] at hname
    show sig.name ∈ methodOperations
    rw [hname.1]
    exact hoperation
  · exact nomatch h

/-- The library of the methods of a type is paired. -/
theorem paired_libraryCode (t : ValueType) (sigs : List Signature) :
    (libraryCode t sigs).Paired := by
  have hoperations : ∀ operation ∈ methodOperations, Paired operation := by decide
  have hmethods : Code.Paired ((find t sigs).flatMap fun b => b.methodCode t) :=
    Code.paired_flatMap fun b hb =>
      paired_methodCode (hoperations b.operation (operation_mem_of_mem_find hb)) t
  have husing : Code.Paired (Code.line ("using " ++ libraryName t ++ " for " ++ t.name ++
      " global;")) := by
    apply Code.paired_line
    exact ((((by decide : Paired "using ").append (paired_libraryName t)).append
      (by decide)).append t.paired_name).append (by decide)
  have hopening := Code.openAfter_opening
    ((by decide : Paired "library ").append (paired_libraryName t)) []
  unfold libraryCode libraryOpening Code.libraryEnd Code.Paired
  simp only [Code.openAfter_append, Code.openAfter_blank, Option.bind_some, husing.openAfter,
    hopening, hmethods.openAfter, Code.openAfter_closing]

end Binding

/-! ## The preamble -/

namespace Preamble

/-- A helper function is paired if its parts are. -/
theorem paired_helper {name parameters result : String} {body : Code} (hname : Paired name)
    (hparameters : Paired parameters) (hresult : Paired result) (hbody : body.Paired) :
    (helper name parameters result body).Paired := by
  refine Code.paired_blank.append (Code.paired_block ?_ hbody)
  unfold visibility Paired
  simp only [String.toList_append, openAfter_append, hname.openAfter, hparameters.openAfter,
    hresult.openAfter]
  rfl

/-- The imports are paired. -/
theorem paired_imports : imports.Paired := by
  refine ((((((Code.paired_line ?_).append (Code.paired_line ?_)).append Code.paired_blank).append
    (Code.paired_line ?_)).append Code.paired_blank).append (Code.paired_line ?_)).append
      Code.paired_blank
  all_goals exact paired_ofList (by decide)

/-- The definition of a type is paired. -/
theorem paired_typeDefinition (t : ValueType) : (typeDefinition t).Paired :=
  Code.paired_line (((by decide : Paired "type ").append t.paired_name).append
    (paired_ofList (by decide)))

/-- The constant that stands for a type is paired. -/
theorem paired_typeConstant (t : ValueType) : (typeConstant t).Paired := by
  have hname : Paired t.constantName := by
    obtain ⟨encrypted, width⟩ := t
    cases encrypted <;> cases width <;> decide +kernel
  have hrank : Paired (toString t.rank) := (unbracketed_repr t.rank).paired
  exact Code.paired_line (((((paired_ofList (by decide) :
    Paired "uint8 internal constant ").append hname).append (by decide)).append hrank).append
      (by decide))

/-- The conversions between raw values and plaintext values are paired. -/
theorem paired_conversions : conversions.Paired := by
  refine (((paired_helper ?_ ?_ ?_ (Code.paired_line ?_)).append
    (paired_helper ?_ ?_ ?_ (Code.paired_line ?_))).append
      (paired_helper ?_ ?_ ?_ (Code.paired_block ?_ (Code.paired_line ?_)))).append
        (paired_helper ?_ ?_ ?_ (Code.paired_line ?_))
  all_goals exact paired_ofList (by decide)

/-- The library of runtime constants and conversions is paired. -/
theorem paired_common : common.Paired := by
  refine Code.paired_block (by decide) (((Code.paired_line ?_).append ?_).append paired_conversions)
  · exact paired_ofList (by decide)
  · exact Code.paired_flatMap fun t _ => paired_typeConstant t

/-- A helper that calls the runtime is paired if its parts are. Its parameters stand on lines of
their own, inside the parenthesis that the first line opens. -/
theorem paired_callHelper {name implementation : String} {parameters : List String} {body : Code}
    (hname : Paired name) (hparameters : ∀ p ∈ parameters, Paired p)
    (himplementation : Paired implementation) (hbody : body.Paired) :
    (callHelper name parameters implementation body).Paired := by
  have hopen : Code.openAfter [] (Code.line ("function " ++ name ++ "(")) = some [')'] := by
    simp only [Code.openAfter_line, String.toList_append, openAfter_append, hname.openAfter]
    rfl
  have hlist : Code.Paired (Code.line "uint8 utype," ++
      parameters.flatMap (fun p => Code.line ("uint256 " ++ p ++ ",")) ++
      Code.line
        ("function(" ++ implementation ++ ") external pure returns (bytes memory) impl")) := by
    refine ((Code.paired_line (by decide)).append ?_).append (Code.paired_line ?_)
    · exact Code.paired_flatMap fun p hp =>
        Code.paired_line (((by decide : Paired "uint256 ").append (hparameters p hp)).append
          (by decide))
    · unfold Paired
      simp only [String.toList_append, openAfter_append, himplementation.openAfter]
      rfl
  have hhead : Code.openAfter [')'] (Code.opening (") " ++ visibility ++ " returns (uint256)")) =
      some ['\x7d'] := rfl
  unfold callHelper Code.Paired
  rw [Code.openAfter_append, Code.openAfter_append, Code.openAfter_append, Code.openAfter_append,
    hopen, Option.bind_some, Code.openAfter_indent, hlist.openAfter, Option.bind_some, hhead,
    Option.bind_some, Code.openAfter_indent, hbody.openAfter, Option.bind_some,
    Code.openAfter_closing]

/-- The helpers that call the runtime are paired. -/
theorem paired_callHelpers : callHelpers.Paired := by
  have hunary : Code.Paired (Code.line
      "return Common.bytesToUint(impl(utype, Common.uintToBytes(value)));") :=
    Code.paired_line (paired_ofList (by decide))
  have hmath : Code.Paired (Code.line
      ("return Common.bytesToUint(impl(utype, Common.uintToBytes(lhs), " ++
        "Common.uintToBytes(rhs)));")) :=
    Code.paired_line (paired_ofList_append (by decide))
  -- The call on three operands is closed two lines below.
  have hopen : Code.openAfter [] (Code.line "return Common.bytesToUint(") = some [')'] := by
    rw [Code.openAfter_line]
    exact openAfter_ofList (by decide)
  have hcall : Code.Paired (Code.line
      ("impl(utype, Common.uintToBytes(control), Common.uintToBytes(ifTrue), " ++
        "Common.uintToBytes(ifFalse))")) :=
    Code.paired_line (paired_ofList_append (by decide))
  have hternary : Code.Paired (Code.line "return Common.bytesToUint(" ++
      Code.indent (Code.line
        ("impl(utype, Common.uintToBytes(control), Common.uintToBytes(ifTrue), " ++
          "Common.uintToBytes(ifFalse))")) ++ Code.line ");") := by
    unfold Code.Paired
    rw [Code.openAfter_append, Code.openAfter_append, hopen, Option.bind_some,
      Code.openAfter_indent, hcall.openAfter, Option.bind_some]
    rfl
  exact (((((paired_callHelper (by decide) (by decide) (paired_ofList (by decide)) hunary).append
    Code.paired_blank).append
      (paired_callHelper (by decide) (by decide) (paired_ofList (by decide)) hmath)).append
        Code.paired_blank).append
          (paired_callHelper (by decide) (by decide) (paired_ofList (by decide)) hternary))

/-- The helpers that cast, encrypt and verify are paired. -/
theorem paired_castHelpers : castHelpers.Paired := by
  have hcast : Paired ("return Common.bytesToUint(FheOps(Precompiles.Fheos).cast(fromType, " ++
      "Common.uintToBytes(value), toType));") :=
    paired_ofList_append (by decide +kernel)
  have hencrypt : Paired ("return Common.bytesToUint(FheOps(Precompiles.Fheos).trivialEncrypt(" ++
      "Common.uintToBytes(value), toType));") :=
    paired_ofList_append (by decide +kernel)
  have hverify : Paired
      "return Common.bytesToUint(FheOps(Precompiles.Fheos).verify(toType, ciphertext));" :=
    paired_ofList (by decide)
  refine ((paired_helper ?_ ?_ ?_ (Code.paired_line hcast)).append
    (paired_helper ?_ ?_ ?_ (Code.paired_line hencrypt))).append
      (paired_helper ?_ ?_ ?_ (Code.paired_line hverify))
  all_goals exact paired_ofList (by decide)

/-- The library of calls of the runtime is paired. -/
theorem paired_implementation : implementation.Paired :=
  Code.paired_block (by decide) (paired_callHelpers.append paired_castHelpers)

/-- The constant of a type that no initialized value is equal to is paired. -/
theorem paired_nilConstant (t : ValueType) : (nilConstant t).Paired := by
  have hname : Paired (Text.constantCase t.name) := by
    obtain ⟨encrypted, width⟩ := t
    cases encrypted <;> cases width <;> decide +kernel
  exact Code.paired_line ((((t.paired_name.append (paired_ofList (by decide))).append
    hname).append (by decide)).append t.paired_name |>.append (by decide))

/-- The function that tells whether a value of a type is initialized is paired. -/
theorem paired_isInitialized (t : ValueType) : (isInitialized t).Paired := by
  apply paired_helper (by decide) (t.paired_name.append (by decide)) (by decide)
  exact Code.paired_line (((by decide : Paired "return ").append t.paired_name).append (by decide))

/-- The preamble leaves one brace open, that of the library `FHE`. -/
theorem openAfter_code : Code.openAfter [] code = some ['\x7d'] := by
  have htypes : Code.Paired (ValueType.encryptedTypes.flatMap typeDefinition) :=
    Code.paired_flatMap fun t _ => paired_typeDefinition t
  have hinner : Code.Paired (ValueType.encryptedTypes.flatMap nilConstant ++
      ValueType.encryptedTypes.flatMap isInitialized) :=
    (Code.paired_flatMap fun t _ => paired_nilConstant t).append
      (Code.paired_flatMap fun t _ => paired_isInitialized t)
  have hbefore : Code.Paired (imports ++ ValueType.encryptedTypes.flatMap typeDefinition ++
      Code.blank ++ common ++ Code.blank ++ implementation ++ Code.blank) :=
    (((((paired_imports.append htypes).append Code.paired_blank).append paired_common).append
      Code.paired_blank).append paired_implementation).append Code.paired_blank
  unfold code libraryOpening
  rw [Code.openAfter_append, hbefore.openAfter, Option.bind_some, Code.openAfter_append,
    Code.openAfter_opening (by decide), Option.bind_some, Code.openAfter_indent, hinner.openAfter]

end Preamble

/-! ## The library as a whole -/

/-- A text stands at a depth of braces behind a front if so many braces and no other brackets are
open where it starts, and the same where it ends. -/
def StandsAt (depth : Nat) (front text : String) : Prop :=
  openAfter [] front.toList = some (List.replicate depth '\x7d') ∧
    openAfter [] (front ++ text).toList = some (List.replicate depth '\x7d')

/-- A paired text stands at the depth that is open behind the front. -/
theorem standsAt_of_paired {depth : Nat} {front text : String}
    (hfront : openAfter [] front.toList = some (List.replicate depth '\x7d')) (h : Paired text) :
    StandsAt depth front text := by
  refine ⟨hfront, ?_⟩
  rw [String.toList_append, openAfter_append, hfront, Option.bind_some, h.openAfter]

/-- Behind the preamble and some paired texts, the brace of the library `FHE` is open. -/
theorem openAfter_preamble_append {texts : List String} (h : ∀ text ∈ texts, Paired text) :
    openAfter [] (String.join (Preamble.code.render :: texts)).toList =
      some (List.replicate 1 '\x7d') := by
  rw [String.join_cons, String.toList_append, openAfter_append, Code.openAfter_render,
    Preamble.openAfter_code, Option.bind_some, (paired_join h).openAfter]
  rfl

/-- The function of a signature with a paired name is paired. -/
theorem Signature.paired_functionText {sig : Signature} {text : String}
    (h : sig.functionText = .ok text) (hname : Paired sig.name) : Paired text := by
  obtain ⟨helper, -, rfl⟩ := functionText_eq_ok_iff.1 h
  exact Code.paired_render.2 (paired_functionCode hname sig.leading helper)

/-- The functions of signatures with paired names are paired. -/
theorem Signature.paired_of_mem_functionTexts {sigs : List Signature} {functions : List String}
    (h : sigs.mapM Signature.functionText = .ok functions) (hnames : ∀ sig ∈ sigs, Paired sig.name)
    {text : String} (htext : text ∈ functions) : Paired text := by
  obtain ⟨sig, hsig, hfunction⟩ := exists_of_mem_mapM h htext
  exact paired_functionText hfunction (hnames sig hsig)

/-- The title before the conversion functions is paired. -/
theorem paired_castTitle : Paired castTitle :=
  paired_ofList (by decide)

/-- A library is paired if the names of its signatures are. The functions and the conversions each
stand inside the one brace of the library `FHE`, and the operator overloading starts where nothing
is open. -/
theorem depths_of_libraryText {sigs : List Signature} {library : String}
    (h : libraryText sigs = .ok library) (hnames : ∀ sig ∈ sigs, Paired sig.name) :
    Paired library ∧
      ∃ functions symbols,
        List.Forall₂ (fun sig text => sig.functionText = .ok text) sigs functions ∧
        library = String.join (Preamble.code.render :: functions ++ castTitle :: castFunctions ++
          Code.libraryEnd.render :: overloadingTitle :: symbols ++ bindingTitle ::
            ValueType.encryptedTypes.map fun t => (Binding.libraryCode t sigs).render) ∧
        (∀ before text after, functions = before ++ text :: after →
          StandsAt 1 (String.join (Preamble.code.render :: before)) text) ∧
        (∀ before text after, castFunctions = before ++ text :: after →
          StandsAt 1 (String.join (Preamble.code.render :: functions ++ castTitle :: before))
            text) ∧
        openAfter [] (String.join (Preamble.code.render :: functions ++
          castTitle :: castFunctions ++ [Code.libraryEnd.render])).toList = some [] := by
  obtain ⟨functions, symbols, hfunctions, hsymbols, rfl⟩ := libraryText_eq_ok_iff.1 h
  have hpaired : ∀ text ∈ functions, Paired text :=
    fun text htext => Signature.paired_of_mem_functionTexts hfunctions hnames htext
  -- What is in the library `FHE` is paired, so the end of the library closes its brace.
  have hinner : ∀ text ∈ functions ++ castTitle :: castFunctions, Paired text := by
    rw [List.forall_mem_append, List.forall_mem_cons]
    exact ⟨hpaired, paired_castTitle, fun text htext => paired_of_mem_castFunctions htext⟩
  have hend : openAfter [] (String.join (Preamble.code.render :: functions ++
      castTitle :: castFunctions ++ [Code.libraryEnd.render])).toList = some [] := by
    rw [String.join_append, String.toList_append, openAfter_append, List.cons_append,
      openAfter_preamble_append hinner, Option.bind_some, String.join_cons, String.join_nil,
      String.append_empty, Code.openAfter_render]
    exact Code.openAfter_closing []
  have hrest : Paired (String.join (overloadingTitle :: symbols ++ bindingTitle ::
      ValueType.encryptedTypes.map fun t => (Binding.libraryCode t sigs).render)) := by
    apply paired_join
    rw [List.forall_mem_append, List.forall_mem_cons, List.forall_mem_cons, List.forall_mem_map]
    refine ⟨⟨paired_ofList (by decide), fun text htext => ?_⟩, paired_ofList (by decide),
      fun t _ => Code.paired_render.2 (Binding.paired_libraryCode t sigs)⟩
    exact paired_of_mem_symbolsOn hsymbols (fun _ => encrypted_of_mem_encryptedTypes) htext
  refine ⟨?_, functions, symbols, mapM_eq_ok_iff.1 hfunctions, rfl, ?_, ?_, hend⟩
  · have hsplit : String.join (Preamble.code.render :: functions ++ castTitle :: castFunctions ++
        Code.libraryEnd.render :: overloadingTitle :: symbols ++ bindingTitle ::
          ValueType.encryptedTypes.map fun t => (Binding.libraryCode t sigs).render) =
        String.join (Preamble.code.render :: functions ++ castTitle :: castFunctions ++
          [Code.libraryEnd.render]) ++ String.join (overloadingTitle :: symbols ++
            bindingTitle :: ValueType.encryptedTypes.map fun t =>
              (Binding.libraryCode t sigs).render) := by
      rw [← String.join_append]
      simp only [List.append_assoc, List.cons_append, List.nil_append]
    unfold Paired
    rw [hsplit, String.toList_append, openAfter_append, hend, Option.bind_some, hrest.openAfter]
  · rintro before text after rfl
    rw [List.forall_mem_append, List.forall_mem_cons] at hpaired
    exact standsAt_of_paired (openAfter_preamble_append hpaired.1) hpaired.2.1
  · intro before text after hcasts
    rw [hcasts, List.forall_mem_append, List.forall_mem_cons, List.forall_mem_append,
      List.forall_mem_cons] at hinner
    obtain ⟨hfunctions, htitle, hbefore, htext, -⟩ := hinner
    refine standsAt_of_paired (openAfter_preamble_append ?_) htext
    exact List.forall_mem_append.2 ⟨hfunctions, List.forall_mem_cons.2 ⟨htitle, hbefore⟩⟩

end FheSolidity
