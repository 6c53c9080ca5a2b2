import FheSolidity.Proofs.Solidity.Library
import FheSolidity.Proofs.Solidity.Spelling

/-!
# The flow of data through a function

Four passes over the inputs make the parameters and the parts of a body. `Flow` says what has to
come of them, in terms of positions: which inputs are guarded, from which input each raw value is
defined, and which values the call of the runtime is given. It leaves nothing open
(`Flow.subsingleton`), and its lines, in which everything that depends on a type is spelled out, are
those that a function has behind its head (`functionText_flow`). In these lines the raw value of
each input is defined by one line only, which stands behind all guards and before the call.
-/

namespace FheSolidity

open Text

namespace Signature

/-! ## Lines of a body -/

/-- The statements of a body that stand in one line, short of what they say. -/
inductive Statement
  /-- The definition of the raw value of the input at a position. -/
  | definition (i : Nat)
  /-- The call of the runtime. -/
  | call
  /-- The return of its result. -/
  | returning
  deriving DecidableEq

/-- The start of a line with a statement. -/
def Statement.start : Statement → String
  | definition i => "        uint256 unwrappedInput" ++ toString i ++ " = "
  | call => "        uint256 result = "
  | returning => "        return "

/-- The line that opens a function. The input at a position is the parameter with its number. -/
def openingLine (sig : Signature) : String :=
  "    function " ++ sig.name ++ "(" ++
    ", ".intercalate (sig.inputs.mapIdx fun i t => t.spelling.declared ++ " input" ++ toString i) ++
    ") internal pure returns (" ++ sig.result.spelling.declared ++ ") \x7b"

/-- The lines of the guard for an input: unless it is initialized, zero converted to its type takes
its place. -/
def guardLines (i : Nat) (t : ValueType) : List String :=
  ["        if (!isInitialized(input" ++ toString i ++ ")) \x7b",
    "            input" ++ toString i ++ " = " ++ t.width.spelling.cast ++ "(0);",
    "        \x7d"]

/-- The line that defines the raw value of the input at a position. -/
def definitionLine (i : Nat) (t : ValueType) : String :=
  (Statement.definition i).start ++ t.spelling.unwrap ++ "(input" ++ toString i ++ ");"

/-- The function through which the runtime is called on one, two or three raw values. -/
def callFunction : Nat → String
  | 1 => "Impl.unaryOp"
  | 2 => "Impl.mathOp"
  | _ => "Impl.ternaryOp"

/-- The line that calls the runtime on the raw values of all inputs. -/
def callLine (sig : Signature) (width : Width) : String :=
  Statement.call.start ++ callFunction sig.inputs.length ++ "(" ++ ", ".intercalate
    (width.spelling.constant ::
      (List.range sig.inputs.length).map (fun i => "unwrappedInput" ++ toString i) ++
      ["FheOps(Precompiles.Fheos)." ++ sig.name]) ++ ");"

/-- The line that returns the result of the call. -/
def returnLine (sig : Signature) : String :=
  Statement.returning.start ++ sig.result.spelling.wrap ++ "(result);"

/-- What the parts of a function with a signature have to be. -/
structure Flow (sig : Signature) where
  /-- The inputs that are guarded. -/
  guarded : List (ValueType × Nat)
  /-- They come in the order of their positions. -/
  ordered : guarded.Pairwise fun first second => first.2 < second.2
  /-- They are the encrypted inputs if the first input is encrypted, and none otherwise. -/
  mem_guarded_iff : ∀ t i, (t, i) ∈ guarded ↔ sig.inputs[i]? = some t ∧ t.encrypted = true ∧
    ∃ first, sig.inputs.head? = some first ∧ first.encrypted = true
  /-- The width that the runtime is told. -/
  width : Width
  /-- It is that of the result if this is encrypted. -/
  width_of_encrypted : sig.result.encrypted = true → width = sig.result.width
  /-- It is that of the first input otherwise. -/
  width_of_plaintext : sig.result.encrypted = false →
    ∃ first, sig.inputs.head? = some first ∧ width = first.width

namespace Flow

variable {sig : Signature} (flow : sig.Flow)

/-- The lines of all guards. -/
def guards : List String :=
  flow.guarded.flatMap fun (t, i) => guardLines i t

/-- The line that calls the runtime. -/
def call : String :=
  sig.callLine flow.width

/-- The lines of a function behind its head. -/
def lines : List String :=
  flow.guards ++ sig.inputs.mapIdx definitionLine ++
    ["", flow.call, sig.returnLine, "    \x7d"]

end Flow

/-- A signature has at most one flow of data. -/
theorem Flow.subsingleton (sig : Signature) : Subsingleton sig.Flow := by
  constructor
  rintro ⟨guarded, hordered, hmem, width, hresult, hfirst⟩
    ⟨guarded', hordered', hmem', width', hresult', hfirst'⟩
  -- Two strictly ordered lists of the same elements are the same list.
  have hguarded : guarded = guarded' := by
    have hnodup : ∀ {list : List (ValueType × Nat)},
        list.Pairwise (fun first second => first.2 < second.2) → list.Nodup := by
      intro list h
      apply h.imp
      rintro a b hlt rfl
      exact lt_irrefl _ hlt
    have hperm : guarded.Perm guarded' := by
      rw [List.perm_ext_iff_of_nodup (hnodup hordered) (hnodup hordered')]
      rintro ⟨t, i⟩
      rw [hmem, hmem']
    refine hperm.eq_of_pairwise ?_ hordered hordered'
    intro a b _ _ hlt hgt
    exact absurd hlt hgt.asymm
  have hwidth : width = width' := by
    cases h : sig.result.encrypted with
    | true => rw [hresult h, hresult' h]
    | false =>
      obtain ⟨first, hhead, rfl⟩ := hfirst h
      obtain ⟨first', hhead', rfl⟩ := hfirst' h
      rw [Option.some.inj (hhead.symm.trans hhead')]
  subst hguarded hwidth
  rfl

/-! ## The source of a function -/

/-- A line in a body is its text behind the spaces for two levels. -/
theorem chars_indent_indent_line {text line : String} (hne : text ≠ "")
    (hline : "        " ++ text = line) :
    (Code.indent (Code.indent (Code.line text))).chars = [line.toList] := by
  show [Line.chars ⟨2, text⟩] = _
  rw [Line.chars_of_ne hne, ← hline]
  rfl

/-- The line that opens a function is its head in the library. -/
theorem headLine_eq_openingLine (sig : Signature) : sig.headLine = sig.openingLine.toList := by
  have hparameters : sig.parameterList = ", ".intercalate
      (sig.inputs.mapIdx fun i t => t.spelling.declared ++ " input" ++ toString i) := by
    unfold parameterList inputName
    rw [List.mapIdx_eq_zipIdx_map]
    refine congrArg _ (List.map_congr_left ?_)
    rintro ⟨t, i⟩ -
    show t.declared ++ " " ++ ("input" ++ toString i) = _
    rw [t.declared_eq]
    -- Both sides are the same characters, with the literals cut at different places.
    apply String.toList_injective
    simp only [String.toList_append, List.append_assoc]
    rfl
  unfold headLine openingLine header visibility
  rw [hparameters, sig.result.declared_eq]
  simp only [String.toList_append, List.append_assoc]
  rfl

/-- The lines of a guard in a body. -/
theorem chars_guard {t : ValueType} (ht : t.encrypted = true) (i : Nat) :
    (Code.indent (Code.indent (guard t i))).chars = (guardLines i t).map String.toList := by
  have hopening : Line.chars ⟨2, "if (!isInitialized(" ++ inputName i ++ "))" ++ " \x7b"⟩ =
      ("        if (!isInitialized(input" ++ toString i ++ ")) \x7b").toList := by
    unfold inputName
    rw [Line.chars_of_ne (by simp)]
    simp only [String.toList_append, List.append_assoc]
    rfl
  have hassignment : Line.chars ⟨3, inputName i ++ " = " ++ t.castName ++ "(0);"⟩ =
      ("            input" ++ toString i ++ " = " ++ t.width.spelling.cast ++ "(0);").toList := by
    unfold inputName
    rw [Line.chars_of_ne (by simp), ValueType.castName_eq ht]
    simp only [String.toList_append, List.append_assoc]
    rfl
  show [Line.chars ⟨2, _⟩, Line.chars ⟨3, _⟩, Line.chars ⟨2, "\x7d"⟩] = _
  rw [hopening, hassignment]
  rfl

/-- The line of a definition in a body. -/
theorem chars_unwrapping (t : ValueType) (i : Nat) :
    (Code.indent (Code.indent (unwrapping t i))).chars = [(definitionLine i t).toList] := by
  apply chars_indent_indent_line (by simp)
  unfold definitionLine Statement.start unwrappedName inputName
  rw [t.unwrapped_eq]
  apply String.toList_injective
  simp only [String.toList_append, List.append_assoc]
  rfl

/-! ## The flow of a signature -/

/-- The inputs are taken to be encrypted if the first one is. -/
theorem leading_eq_encrypted_iff {sig : Signature} : sig.leading = .encrypted ↔
    ∃ first, sig.inputs.head? = some first ∧ first.encrypted = true := by
  unfold leading
  cases sig.inputs with
  | nil => simp [Leading.ofInputs]
  | cons t rest => simp [Leading.ofInputs]

/-- The inputs that are guarded. -/
def guardedInputs (sig : Signature) : List (ValueType × Nat) :=
  match sig.leading with
  | .encrypted => sig.inputs.zipIdx.filter fun (t, _) => t.encrypted
  | .plaintext => []

/-- The guarded inputs come in the order of their positions. -/
theorem pairwise_guardedInputs (sig : Signature) :
    sig.guardedInputs.Pairwise fun first second => first.2 < second.2 := by
  have hall : sig.inputs.zipIdx.Pairwise fun first second => first.2 < second.2 := by
    rw [← List.pairwise_map (f := Prod.snd), List.zipIdx_map_snd]
    exact List.pairwise_lt_range'
  unfold guardedInputs
  split
  · exact hall.filter _
  · exact .nil

/-- An input is guarded if it is encrypted and so is the first input. -/
theorem mem_guardedInputs_iff {sig : Signature} (t : ValueType) (i : Nat) :
    (t, i) ∈ sig.guardedInputs ↔ sig.inputs[i]? = some t ∧ t.encrypted = true ∧
      ∃ first, sig.inputs.head? = some first ∧ first.encrypted = true := by
  rw [← leading_eq_encrypted_iff]
  unfold guardedInputs
  cases sig.leading with
  | encrypted => simp [List.mem_zipIdx_iff_getElem?]
  | plaintext => simp

/-- The flow of data through a function that can be written. -/
def flow {sig : Signature} {helper : CallHelper} (h : sig.helper = .ok helper) : sig.Flow where
  guarded := sig.guardedInputs
  ordered := sig.pairwise_guardedInputs
  mem_guarded_iff := mem_guardedInputs_iff
  width := sig.runtimeType.width
  width_of_encrypted := by
    intro hresult
    unfold runtimeType
    rw [if_pos hresult]
  width_of_plaintext := by
    intro hresult
    -- There is an input, since there is a helper.
    have harity := (exists_helper_iff.1 ⟨helper, h⟩).1
    obtain ⟨first, rest, hinputs⟩ := List.exists_cons_of_length_pos harity
    refine ⟨first, by rw [hinputs, List.head?_cons], ?_⟩
    unfold runtimeType
    rw [hresult, if_neg Bool.false_ne_true, hinputs]
    rfl

/-- The lines of the guards in a body are those of the flow. -/
theorem chars_guards {sig : Signature} {helper : CallHelper} (h : sig.helper = .ok helper) :
    (Code.indent (Code.indent (sig.guards sig.leading))).chars =
      (flow h).guards.map String.toList := by
  show _ = (sig.guardedInputs.flatMap fun (t, i) => guardLines i t).map String.toList
  unfold guards guardedInputs
  cases sig.leading with
  | plaintext => rfl
  | encrypted =>
    rw [Code.indent_flatMap, Code.indent_flatMap, Code.chars_flatMap, flatMap_filter,
      List.map_flatMap]
    apply List.flatMap_congr
    rintro ⟨t, i⟩ -
    show Code.chars (Code.indent (Code.indent (if t.encrypted then guard t i else []))) =
      (if t.encrypted then guardLines i t else []).map String.toList
    split
    case isTrue ht => exact chars_guard ht i
    case isFalse => rfl

/-- The lines of the definitions in a body are those of the flow. -/
theorem chars_definitions (inputs : List ValueType) :
    (Code.indent (Code.indent (inputs.zipIdx.flatMap fun (t, i) => unwrapping t i))).chars =
      (inputs.mapIdx definitionLine).map String.toList := by
  rw [Code.indent_flatMap, Code.indent_flatMap, Code.chars_flatMap, List.mapIdx_eq_zipIdx_map,
    List.map_map, List.map_eq_flatMap]
  apply List.flatMap_congr
  rintro ⟨t, i⟩ -
  exact chars_unwrapping t i

/-- The helper for a function is the one for the number of its inputs. -/
theorem function_of_helper {sig : Signature} {helper : CallHelper} (h : sig.helper = .ok helper) :
    helper.function = callFunction sig.inputs.length := by
  unfold Signature.helper arity at h
  generalize sig.inputs.length = n at h ⊢
  split at h
  case h_1 harity =>
    obtain rfl := Except.ok.inj h
    match n, harity with
    | 1, harity | 2, harity | 3, harity =>
      obtain rfl := Option.some.inj harity
      rfl
  case h_2 => cases h

/-- The line of the call in a body is that of the flow. -/
theorem chars_call {sig : Signature} {helper : CallHelper} (h : sig.helper = .ok helper) :
    (Code.indent (Code.indent (sig.call helper))).chars = [(flow h).call.toList] := by
  apply chars_indent_indent_line (by simp)
  show _ = sig.callLine sig.runtimeType.width
  unfold callLine callArguments Statement.start arity unwrappedName
  rw [function_of_helper h, sig.runtimeType.constant_eq]
  simp only [← String.append_assoc, String.reduceAppend]

/-- The line that returns from a body. -/
theorem chars_return (sig : Signature) :
    (Code.indent (Code.indent
      (Code.line ("return " ++ sig.result.wrapped "result" ++ ";")))).chars =
        [sig.returnLine.toList] := by
  apply chars_indent_indent_line (by simp)
  unfold returnLine Statement.start
  rw [sig.result.wrapped_eq]
  apply String.toList_injective
  simp only [String.toList_append, List.append_assoc]
  rfl

/-- The lines of a body and of the brace that closes it are those of the flow. -/
theorem chars_body {sig : Signature} {helper : CallHelper} (h : sig.helper = .ok helper) :
    (Code.indent (Code.indent (sig.body sig.leading helper) ++ Code.closing)).chars =
      (flow h).lines.map String.toList := by
  have hblank : (Code.indent (Code.indent Code.blank)).chars = [[]] := rfl
  have hclosing : (Code.indent Code.closing).chars = ["    \x7d".toList] := rfl
  unfold body Flow.lines
  simp only [Code.indent_append, Code.chars_append, chars_guards h, chars_definitions, hblank,
    chars_call h, chars_return, hclosing, List.map_append, List.append_assoc]
  rfl

/-! ## Lines that start alike -/

/-- Whether a line starts with a text. -/
def starts (beginning line : String) : Bool :=
  beginning.toList.isPrefixOf line.toList

/-- No line of a guard starts as a statement of another kind does. -/
theorem starts_of_mem_guardLines {t : ValueType} {i : Nat} {line : String}
    (h : line ∈ guardLines i t) (statement : Statement) :
    starts statement.start line = false := by
  unfold guardLines at h
  simp only [List.mem_cons, List.not_mem_nil, or_false] at h
  unfold starts Statement.start
  -- The character behind eight spaces tells each of the three lines from any statement.
  rcases h with rfl | rfl | rfl <;> cases statement <;> simp only [String.toList_append] <;> rfl

/-- A number before a space does not start a text that starts with another number before a space,
since both numbers are the text up to the first space. -/
theorem eq_of_repr_append_isPrefix {i j : Nat} {rest rest' : List Char}
    (h : i.repr.toList ++ ' ' :: rest <+: j.repr.toList ++ ' ' :: rest') : i = j := by
  obtain ⟨behind, hbehind⟩ := h
  have hdigits : ∀ (n : Nat), ∀ c ∈ n.repr.toList, (c != ' ') = true := by
    intro n c hc
    rw [Nat.toList_repr] at hc
    have hdigit := Nat.isDigit_of_mem_toDigits (by decide) (by decide) hc
    rw [bne_iff_ne]
    rintro rfl
    exact absurd hdigit (by decide)
  have hnumbers := congrArg (List.takeWhile (· != ' ')) hbehind
  rw [List.append_assoc, List.cons_append, takeWhile_append_cons (hdigits i) rfl,
    takeWhile_append_cons (hdigits j) rfl] at hnumbers
  exact Nat.repr_inj.1 (String.toList_injective hnumbers)

/-- A line that defines a raw value starts as the statement for its input does, and as no other. -/
theorem starts_definitionLine (i : Nat) (t : ValueType) (statement : Statement) :
    starts statement.start (definitionLine i t) = decide (statement = .definition i) := by
  cases statement with
  | definition j =>
    rw [Bool.eq_iff_iff, decide_eq_true_iff]
    unfold starts
    rw [List.isPrefixOf_iff_prefix]
    constructor
    · intro hprefix
      unfold definitionLine Statement.start at hprefix
      simp only [String.toList_append, List.append_assoc, List.prefix_append_right_inj,
        Nat.toString_eq_repr] at hprefix
      rw [eq_of_repr_append_isPrefix hprefix]
    · rintro ⟨rfl⟩
      unfold definitionLine
      rw [String.append_assoc, String.append_assoc, String.append_assoc, String.toList_append]
      exact List.prefix_append _ _
  | call =>
    -- Both declare a number, and the first letter of its name tells them apart.
    unfold starts definitionLine Statement.start
    simp only [String.toList_append]
    rfl
  | returning =>
    unfold starts definitionLine Statement.start
    simp only [String.toList_append]
    rfl

/-- The line of the call starts as no other statement does. -/
theorem starts_callLine (sig : Signature) (width : Width) (statement : Statement) :
    starts statement.start (sig.callLine width) = decide (statement = .call) := by
  unfold starts callLine Statement.start
  cases statement <;> simp only [String.toList_append] <;> rfl

/-- The line that returns starts as no other statement does. -/
theorem starts_returnLine (sig : Signature) (statement : Statement) :
    starts statement.start sig.returnLine = decide (statement = .returning) := by
  unfold starts returnLine Statement.start
  cases statement <;> simp only [String.toList_append] <;> rfl

/-- An empty line and the brace at the end are no statements. -/
theorem starts_eq_false (statement : Statement) :
    starts statement.start "" = false ∧ starts statement.start "    \x7d" = false := by
  unfold starts Statement.start
  cases statement <;> simp only [String.toList_append] <;> exact ⟨rfl, rfl⟩

/-- Of lines made from a list and its positions, those that belong to one position are the line made
there. -/
theorem filter_mapIdx {p : String → Bool} (f : Nat → ValueType → String) (i : Nat)
    (h : ∀ j t, p (f j t) = decide (i = j)) (inputs : List ValueType) :
    (inputs.mapIdx f).filter p = (inputs[i]?.map (f i)).toList := by
  induction inputs generalizing f i with
  | nil => rfl
  | cons t inputs ih =>
    rw [List.mapIdx_cons]
    cases i with
    | zero =>
      -- The first line belongs to the position, and no later one does.
      have hrest : (inputs.mapIdx fun j => f (j + 1)).filter p = [] := by
        rw [List.filter_eq_nil_iff]
        intro line hline
        obtain ⟨j, hj, rfl⟩ := List.mem_mapIdx.1 hline
        rw [h]
        simp
      rw [List.filter_cons_of_pos (by rw [h]; rfl), hrest]
      rfl
    | succ i =>
      rw [List.filter_cons_of_neg (by rw [h]; simp)]
      have hshift : ∀ j t, p (f (j + 1) t) = decide (i = j) := by
        intro j t
        rw [h, decide_eq_decide, Nat.add_right_cancel_iff]
      rw [ih (fun j => f (j + 1)) i hshift]
      rfl

/-- Of the definitions, one is that of the input at a position if there is such an input. -/
theorem filter_definitions (inputs : List ValueType) (i : Nat) :
    (inputs.mapIdx definitionLine).filter (starts (Statement.definition i).start) =
      (inputs[i]?.map (definitionLine i)).toList := by
  refine filter_mapIdx definitionLine i ?_ inputs
  intro j t
  rw [starts_definitionLine, decide_eq_decide, Statement.definition.injEq]

/-- Definitions are no statements of another kind. -/
theorem filter_definitions_eq_nil (inputs : List ValueType) {statement : Statement}
    (h : ∀ i, statement ≠ .definition i) :
    (inputs.mapIdx definitionLine).filter (starts statement.start) = [] := by
  rw [List.filter_eq_nil_iff]
  intro line hline
  obtain ⟨j, hj, rfl⟩ := List.mem_mapIdx.1 hline
  rw [starts_definitionLine, decide_eq_false (h j)]
  exact Bool.false_ne_true

namespace Flow

variable {sig : Signature} (flow : sig.Flow)

/-- The line of a statement, if it is one of the body. -/
def lineOf? : Statement → Option String
  | .definition i => sig.inputs[i]?.map (definitionLine i)
  | .call => some flow.call
  | .returning => some sig.returnLine

/-- Every statement stands in one line of a body, if it is one of the body, and no other line starts
as it does. -/
theorem filter_starts_lines (statement : Statement) :
    flow.lines.filter (starts statement.start) = (flow.lineOf? statement).toList := by
  have hguards : flow.guards.filter (starts statement.start) = [] := by
    rw [List.filter_eq_nil_iff]
    intro line hline
    obtain ⟨⟨t, i⟩, -, hline⟩ := List.mem_flatMap.1 hline
    rw [starts_of_mem_guardLines hline]
    exact Bool.false_ne_true
  have hcall : starts statement.start flow.call = decide (statement = .call) :=
    starts_callLine sig flow.width statement
  have hbehind : ["", flow.call, sig.returnLine, "    \x7d"].filter (starts statement.start) =
      (if statement = .call then [flow.call] else []) ++
        if statement = .returning then [sig.returnLine] else [] := by
    obtain ⟨hblank, hclosing⟩ := starts_eq_false statement
    rw [List.filter_cons, List.filter_cons, List.filter_cons, List.filter_cons, hblank, hcall,
      starts_returnLine, hclosing]
    cases statement <;> rfl
  unfold lines
  rw [List.filter_append, List.filter_append, hguards, hbehind, List.nil_append]
  cases statement with
  | definition i =>
    rw [filter_definitions]
    exact List.append_nil _
  | call =>
    rw [@filter_definitions_eq_nil sig.inputs .call (by simp)]
    rfl
  | returning =>
    rw [@filter_definitions_eq_nil sig.inputs .returning (by simp)]
    rfl

/-- The raw value of an input is defined behind all guards and before the call. -/
theorem exists_lines_eq {i : Nat} {t : ValueType} (h : sig.inputs[i]? = some t) :
    ∃ front back, flow.lines = flow.guards ++ front ++ definitionLine i t :: back ∧
      flow.call ∈ back := by
  have hsplit : sig.inputs = sig.inputs.take i ++ t :: sig.inputs.drop (i + 1) := by
    obtain ⟨hi, rfl⟩ := List.getElem?_eq_some_iff.1 h
    rw [List.getElem_cons_drop, List.take_append_drop]
  have hlength : (sig.inputs.take i).length = i := by
    obtain ⟨hi, -⟩ := List.getElem?_eq_some_iff.1 h
    exact List.length_take_of_le hi.le
  have hdefinitions : sig.inputs.mapIdx definitionLine =
      (sig.inputs.take i).mapIdx definitionLine ++ definitionLine i t ::
        (sig.inputs.drop (i + 1)).mapIdx (fun j => definitionLine (j + 1 + i)) := by
    conv_lhs => rw [hsplit]
    rw [List.mapIdx_append, hlength, List.mapIdx_cons, Nat.zero_add]
  refine ⟨(sig.inputs.take i).mapIdx definitionLine,
    (sig.inputs.drop (i + 1)).mapIdx (fun j => definitionLine (j + 1 + i)) ++
      ["", flow.call, sig.returnLine, "    \x7d"], ?_, ?_⟩
  · unfold lines
    rw [hdefinitions, List.append_assoc, List.append_assoc, List.append_assoc, List.cons_append]
  · simp

end Flow

/-! ## Functions as they are written -/

/-- **The flow of data through a function.** A function can be written exactly if the runtime can be
called, which is so for one to three inputs, and both fail in the same way otherwise. Unless its
name has a line break, its head names the inputs by their positions, and the lines behind it are the
guards of the encrypted inputs if the first input is one, the definitions of all raw values in their
order, the call on these values, and the return. No two lines define the raw value of one input,
call the runtime, or return. -/
theorem functionText_flow (sig : Signature) :
    ((∃ helper, sig.helper = .ok helper) ↔ 1 ≤ sig.inputs.length ∧ sig.inputs.length ≤ 3) ∧
    ((∃ text, sig.functionText = .ok text) ↔ 1 ≤ sig.inputs.length ∧ sig.inputs.length ≤ 3) ∧
    (¬(1 ≤ sig.inputs.length ∧ sig.inputs.length ≤ 3) →
      sig.helper = .error (.unsupportedArity sig.name sig.inputs.length) ∧
      sig.functionText = .error (.unsupportedArity sig.name sig.inputs.length)) ∧
    (∀ helper, sig.helper = .ok helper → helper.function = callFunction sig.inputs.length) ∧
    ∀ text, sig.functionText = .ok text → Unbroken sig.name →
      ∃ (flow : sig.Flow) (before : List (List Char)),
        lines text.toList = before ++ (sig.openingLine :: flow.lines).map String.toList ∧
        (∀ line ∈ before, isHead line = false) ∧
        (∀ statement : Statement,
          flow.lines.filter (starts statement.start) = (flow.lineOf? statement).toList) ∧
        ∀ i t, sig.inputs[i]? = some t →
          ∃ front back, flow.lines = flow.guards ++ front ++ definitionLine i t :: back ∧
            flow.call ∈ back := by
  refine ⟨exists_helper_iff, exists_functionText_iff,
    fun h => ⟨helper_eq_error h, functionText_eq_error h⟩, fun _ => function_of_helper, ?_⟩
  intro text htext hname
  obtain ⟨helper, hhelper, rfl⟩ := functionText_eq_ok_iff.1 htext
  have hhead : (Code.indent (Code.opening sig.header)).chars = [sig.openingLine.toList] := by
    rw [← headLine_eq_openingLine]
    exact Code.chars_indent_opening sig.header
  have hlines : lines (sig.functionCode sig.leading helper).render.toList =
      (Code.blank.chars ++ (Code.indent (sig.comment sig.leading)).chars) ++
        (sig.openingLine :: (flow hhelper).lines).map String.toList := by
    rw [Code.lines_render (unbroken_functionCode hname sig.leading helper), List.map_cons,
      ← chars_body hhelper]
    unfold functionCode Code.block
    simp only [Code.indent_append, Code.chars_append, hhead, List.append_assoc]
    rfl
  refine ⟨flow hhelper, _, hlines, ?_, (flow hhelper).filter_starts_lines,
    fun i t => (flow hhelper).exists_lines_eq⟩
  have hbefore : (Code.blank.chars ++ (Code.indent (sig.comment sig.leading)).chars).filter isHead =
      [] := by
    rw [List.filter_append, filter_isHead_indent_comment, List.append_nil]
    decide
  intro line hline
  exact Bool.eq_false_iff.2 (List.filter_eq_nil_iff.1 hbefore line hline)

/-- The flow of data through two functions. Of an encrypted truth value, a byte string and an
encrypted byte, two are guarded, and the width is that of the first, since the result is plaintext.
With a number in front nothing is guarded, and the width is that of the encrypted result. -/
theorem functionText_flow_of_mixed_inputs :
    (∃ text before,
      functionText ⟨"pick", [.ebool, .bytes, ⟨true, .uint8⟩], .bool⟩ = .ok text ∧
      lines text.toList = before ++
        ["    function pick(ebool input0, bytes memory input1, euint8 input2) " ++
            "internal pure returns (bool) \x7b",
          "        if (!isInitialized(input0)) \x7b",
          "            input0 = asEbool(0);",
          "        \x7d",
          "        if (!isInitialized(input2)) \x7b",
          "            input2 = asEuint8(0);",
          "        \x7d",
          "        uint256 unwrappedInput0 = ebool.unwrap(input0);",
          "        uint256 unwrappedInput1 = Common.bytesToUint(input1);",
          "        uint256 unwrappedInput2 = euint8.unwrap(input2);",
          "",
          "        uint256 result = Impl.ternaryOp(Common.EBOOL_TFHE, unwrappedInput0, " ++
            "unwrappedInput1, unwrappedInput2, FheOps(Precompiles.Fheos).pick);",
          "        return Common.bigIntToBool(result);",
          "    \x7d"].map String.toList) ∧
    ∃ text before,
      functionText ⟨"mix", [⟨false, .uint16⟩, .bool, ⟨true, .uint32⟩], ⟨true, .uint64⟩⟩ = .ok text ∧
      lines text.toList = before ++
        ["    function mix(uint16 input0, bool input1, euint32 input2) " ++
            "internal pure returns (euint64) \x7b",
          "        uint256 unwrappedInput0 = uint256(input0);",
          "        uint256 unwrappedInput1 = Common.boolToUint(input1);",
          "        uint256 unwrappedInput2 = euint32.unwrap(input2);",
          "",
          "        uint256 result = Impl.ternaryOp(Common.EUINT64_TFHE, unwrappedInput0, " ++
            "unwrappedInput1, unwrappedInput2, FheOps(Precompiles.Fheos).mix);",
          "        return euint64.wrap(result);",
          "    \x7d"].map String.toList := by
  constructor
  · obtain ⟨-, hwritten, -, -, hflow⟩ :=
      functionText_flow ⟨"pick", [.ebool, .bytes, ⟨true, .uint8⟩], .bool⟩
    obtain ⟨text, htext⟩ := hwritten.2 (by decide)
    obtain ⟨flow, before, hlines, -⟩ := hflow text htext (by decide)
    have hunique : flow = Signature.flow rfl := (Flow.subsingleton _).elim _ _
    refine ⟨text, before, htext, ?_⟩
    rw [hlines, hunique]
    rfl
  · obtain ⟨-, hwritten, -, -, hflow⟩ :=
      functionText_flow ⟨"mix", [⟨false, .uint16⟩, .bool, ⟨true, .uint32⟩], ⟨true, .uint64⟩⟩
    obtain ⟨text, htext⟩ := hwritten.2 (by decide)
    obtain ⟨flow, before, hlines, -⟩ := hflow text htext (by decide)
    have hunique : flow = Signature.flow rfl := (Flow.subsingleton _).elim _ _
    refine ⟨text, before, htext, ?_⟩
    rw [hlines, hunique]
    rfl

end Signature

end FheSolidity
