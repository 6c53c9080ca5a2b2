import FheSolidity.Solidity.Symbol
import FheSolidity.Proofs.Traversal
import FheSolidity.Proofs.Solidity.Function
import FheSolidity.Proofs.Text.Uppercase

/-!
# Which types a symbol is attached to

A symbol is attached to a type by a line of its own, the directive. Over encrypted types, the
declarations of the symbols are those of the operations that have one, each with the types that take
it (`symbolsOn_eq_ok`). No two of the directives are the same text, so the directives that can be
read off the declarations say which types take which symbol (`attaches_iff`).
-/

namespace FheSolidity

open Text

/-! ## The declarations of symbols -/

/-- The declarations that attach the symbol of an operation to the types among some that take it. -/
def Shorthand.declarations (op : Shorthand) (types : List ValueType) : List String :=
  match op.symbol with
  | none => []
  | some symbol => (types.filter fun t => t.takesSymbol op.name).map fun t =>
      (symbolCode op.name symbol t op.unary op.returnsBool).render

/-- Each declaration is for the symbol of the operation and one of the types that take it. -/
theorem Shorthand.mem_declarations_iff {op : Shorthand} {types : List ValueType}
    {declaration : String} :
    declaration ∈ op.declarations types ↔ ∃ symbol ∈ op.symbol, ∃ t ∈ types,
      t.takesSymbol op.name = true ∧
        declaration = (symbolCode op.name symbol t op.unary op.returnsBool).render := by
  unfold declarations
  cases op.symbol with
  | none => simp
  | some symbol =>
    simp only [List.mem_map, List.mem_filter, Option.mem_some_iff, exists_eq_left', and_assoc]
    exact exists_congr fun t => by rw [@eq_comm _ declaration]

/-- The symbol of an operation is attached to the encrypted types that take it. -/
theorem Shorthand.symbolsOn_eq_ok (op : Shorthand) {types : List ValueType}
    (h : ∀ t ∈ types, t.encrypted = true) : op.symbolsOn types = .ok (op.declarations types) := by
  unfold symbolsOn declarations
  cases op.symbol with
  | none => rfl
  | some symbol =>
    have hsteps : types.mapM (op.symbolOn? symbol) = .ok (types.map fun t =>
        (Option.guard (fun t => t.takesSymbol op.name) t).map fun t =>
          (symbolCode op.name symbol t op.unary op.returnsBool).render) := by
      rw [mapM_eq_ok_iff, List.forall₂_map_right_iff, List.forall₂_same]
      intro t ht
      unfold symbolOn? Option.guard
      rw [h t ht]
      cases htakes : t.takesSymbol op.name with
      | true => simp [htakes]
      | false => simp [htakes]
    show types.mapM _ >>= _ = _
    rw [hsteps]
    show Except.ok (List.filterMap id (List.map _ types)) = _
    rw [List.filterMap_map, Function.id_comp, ← List.map_filterMap, List.filterMap_eq_filter]

/-- The symbols of all operations are attached to the encrypted types that take them. -/
theorem symbolsOn_eq_ok {types : List ValueType} (h : ∀ t ∈ types, t.encrypted = true) :
    symbolsOn types = .ok (Shorthand.all.flatMap fun op => op.declarations types) := by
  have hsteps : Shorthand.all.mapM (fun op => op.symbolsOn types) =
      .ok (Shorthand.all.map fun op => op.declarations types) := by
    rw [mapM_eq_ok_iff, List.forall₂_map_right_iff, List.forall₂_same]
    exact fun op _ => op.symbolsOn_eq_ok h
  unfold symbolsOn
  rw [hsteps, List.flatMap_def]
  rfl

/-! ## Directives -/

/-- The directive that attaches a symbol to a type. -/
def symbolDirective (operation symbol : String) (t : ValueType) : String :=
  "using \x7b" ++ overloadName operation t ++ " as " ++ symbol ++ "\x7d for " ++ t.name ++
    " global;"

/-- Some declarations attach a symbol to a type for an operation: one of them has the directive
among its lines. -/
def Attaches (declarations : List String) (operation symbol : String) (t : ValueType) : Prop :=
  ∃ declaration ∈ declarations,
    (symbolDirective operation symbol t).toList ∈ lines declaration.toList

/-- Whether a symbol is attached to a type can be found out. -/
instance (declarations : List String) (operation symbol : String) (t : ValueType) :
    Decidable (Attaches declarations operation symbol t) :=
  inferInstanceAs (Decidable (∃ declaration ∈ declarations,
    (symbolDirective operation symbol t).toList ∈ lines declaration.toList))

/-- The declaration of a symbol has one directive, whatever the names in it. -/
theorem mem_lines_symbolCode_iff {operation symbol : String} {t : ValueType}
    {unary returnsBool : Bool} (hoperation : Unbroken operation) (hsymbol : Unbroken symbol)
    {operation' symbol' : String} {u : ValueType} :
    (symbolDirective operation' symbol' u).toList ∈
        lines (symbolCode operation symbol t unary returnsBool).render.toList ↔
      symbolDirective operation' symbol' u = symbolDirective operation symbol t := by
  have hname : Unbroken (overloadName operation t) := by
    have hcapital : Unbroken (capitalize operation) :=
      not_mem_capitalize (by decide) hoperation
    have htype : Unbroken t.capitalized :=
      not_mem_capitalize (by decide) t.unbroken_name
    unfold overloadName
    simp +decide [hcapital, htype]
  have hparameters : Unbroken (operandParameters t unary) := by
    unfold operandParameters
    split <;> simp +decide
  have hbody : (wrapperBody operation unary).Unbroken := by
    unfold wrapperBody operandNames
    split <;> simp +decide [hoperation]
  have hunbroken : (symbolCode operation symbol t unary returnsBool).Unbroken := by
    unfold symbolCode wrapperComment
    simp +decide [hoperation, hsymbol, hname, hparameters, hbody]
  rw [Code.lines_render hunbroken]
  unfold symbolCode wrapperComment Code.block Code.opening Code.closing Code.blank
  simp only [Code.chars_append, List.mem_append, Code.chars_line, List.mem_singleton]
  constructor
  · intro h
    -- Only the directive starts with its letter.
    obtain ⟨rest, hdirective⟩ :
        ∃ rest, (symbolDirective operation' symbol' u).toList = 'u' :: rest := by
      unfold symbolDirective
      simp only [String.toList_append, List.append_assoc]
      exact ⟨_, rfl⟩
    rcases h with ((h | h) | h) | (h | h) | h
    · exact absurd (hdirective.symm.trans h) (List.cons_ne_nil _ _)
    · exact String.toList_injective h
    · rw [hdirective, String.toList_append, String.toList_append] at h
      exact absurd (List.cons.inj h).1 (by decide)
    · simp only [hdirective, String.toList_append, List.append_assoc] at h
      exact absurd (List.cons.inj h).1 (by decide)
    · rw [hdirective] at h
      exact absurd (Code.inner_of_mem_chars_indent _ h) (Code.not_inner_cons (by decide) _)
    · rw [hdirective] at h
      exact absurd (List.cons.inj h).1 (by decide)
  · intro h
    rw [h]
    exact .inl (.inl (.inr rfl))

/-- A directive ends with the type that its symbol is attached to. -/
theorem eq_of_symbolDirective_eq {operation operation' symbol symbol' : String} {t t' : ValueType}
    (h : symbolDirective operation symbol t = symbolDirective operation' symbol' t') : t = t' := by
  -- What stands between the last two spaces is the name of the type.
  have hend : ∀ operation symbol u, (symbolDirective operation symbol u).toList =
      ("using \x7b" ++ overloadName operation u ++ " as " ++ symbol ++ "\x7d for").toList ++
        ' ' :: u.name.toList ++ " global;".toList := by
    intro operation symbol u
    unfold symbolDirective
    simp only [String.toList_append, List.append_assoc, List.cons_append]
    rfl
  have htext := congrArg String.toList h
  rw [hend, hend] at htext
  exact ValueType.eq_of_append_cons_name (by decide) (List.append_cancel_right htext)

/-- A directive has the function that its symbol stands for up to the next space, if the name of the
operation has no space. -/
theorem takeWhile_symbolDirective {operation : String} (h : ' ' ∉ operation.toList)
    (symbol : String) (t : ValueType) :
    ((symbolDirective operation symbol t).toList.drop "using \x7b".length).takeWhile (· != ' ') =
      (overloadName operation t).toList := by
  have hname : ∀ c ∈ (overloadName operation t).toList, (c != ' ') = true := by
    intro c hc
    rw [bne_iff_ne]
    rintro rfl
    unfold overloadName at hc
    rw [String.toList_append, String.toList_append, List.mem_append, List.mem_append] at hc
    rcases hc with (hc | hc) | hc
    · exact absurd hc (by decide)
    · exact not_mem_capitalize (by decide) h hc
    · exact not_mem_capitalize (by decide) (t.not_mem_name (by decide)) hc
  have htext : (symbolDirective operation symbol t).toList = "using \x7b".toList ++
      ((overloadName operation t).toList ++
        ' ' :: ("as " ++ symbol ++ "\x7d for " ++ t.name ++ " global;").toList) := by
    unfold symbolDirective
    simp only [String.toList_append, List.append_assoc]
    rfl
  rw [htext, List.drop_left' (by decide), takeWhile_append_cons hname (by decide)]

/-- Two directives for operations of the table are the same text only for one operation and one
type. -/
theorem symbolDirective_inj {op op' : Shorthand} (hop : op ∈ Shorthand.all)
    (hop' : op' ∈ Shorthand.all) {symbol symbol' : String} {t t' : ValueType}
    (h : symbolDirective op.name symbol t = symbolDirective op'.name symbol' t') :
    op = op' ∧ t = t' := by
  obtain rfl : t = t' := eq_of_symbolDirective_eq h
  have hspace : ∀ op ∈ Shorthand.all, ' ' ∉ op.name.toList := by decide +kernel
  have hnodup : (Shorthand.all.map fun op => capitalize op.name).Nodup := by decide +kernel
  have hname := takeWhile_symbolDirective (hspace op hop) symbol t
  rw [h, takeWhile_symbolDirective (hspace op' hop')] at hname
  unfold overloadName at hname
  rw [String.toList_inj, String.append_left_inj, String.append_right_inj] at hname
  exact ⟨List.inj_on_of_nodup_map hnodup hop hop' hname.symm, rfl⟩

/-- The declaration of the symbol of an operation of the table has the directive for this operation
and its type, and none for another operation of the table or another type. -/
theorem symbolDirective_mem_lines_iff {op op' : Shorthand} (hop : op ∈ Shorthand.all)
    (hop' : op' ∈ Shorthand.all) {symbol symbol' : String} (hsymbol : symbol ∈ op.symbol)
    (hsymbol' : symbol' ∈ op'.symbol) {t t' : ValueType} :
    (symbolDirective op'.name symbol' t').toList ∈
        lines (symbolCode op.name symbol t op.unary op.returnsBool).render.toList ↔
      op' = op ∧ t' = t := by
  have hunbroken : ∀ op ∈ Shorthand.all, Unbroken op.name ∧ ∀ text ∈ op.symbol, Unbroken text := by
    decide +kernel
  obtain ⟨hname, htexts⟩ := hunbroken op hop
  rw [mem_lines_symbolCode_iff hname (htexts symbol hsymbol)]
  constructor
  · exact symbolDirective_inj hop' hop
  · intro h
    obtain ⟨rfl, rfl⟩ := h
    rw [Option.mem_unique hsymbol hsymbol']

end FheSolidity
