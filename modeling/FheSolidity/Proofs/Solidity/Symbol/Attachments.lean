import FheSolidity.Proofs.Solidity.Symbol

/-!
# What the symbols of all operations come to

Symbols may be asked for on any list of types, in which types repeat and plaintext types stand. The
first plaintext type is refused by the first operation that has a symbol, and then there are no
declarations at all (`symbolsOn_eq_error_iff`). Encrypted types get the declarations of their
`attachments` (`symbolsOn_eq_ok_iff`). The text of a declaration tells its operation and its type,
so the part of one operation is told from those of the others (`filter_isAttachedIn_of_symbolsOn`),
and with more types each part goes on behind what it was (`symbolsOn_append`). `symbolsOn_outcome`
puts this together.
-/

namespace FheSolidity

variable {types : List ValueType} {e : Failure}

/-! ## Refusals -/

namespace Shorthand

variable {op : Shorthand}

/-- A type is refused exactly if it is plaintext. -/
theorem symbolOn?_eq_error_iff {symbol : String} {t : ValueType} :
    op.symbolOn? symbol t = .error e ↔ t.encrypted = false ∧ e = .plaintextOperator op.name t := by
  unfold symbolOn?
  cases t.encrypted with
  | false => simp [eq_comm]
  | true => cases t.takesSymbol op.name <;> simp

/-- Why an operation refuses some types: it has a symbol, and the first plaintext type among them
cannot have it. -/
def refusal? (op : Shorthand) (types : List ValueType) : Option Failure :=
  if op.symbol.isSome then
    (types.find? fun t => !t.encrypted).map fun t => .plaintextOperator op.name t
  else none

/-- An operation refuses some types if it has a symbol and one of them is plaintext. -/
theorem isSome_refusal? (op : Shorthand) (types : List ValueType) : (op.refusal? types).isSome =
    (op.symbol.isSome && (types.find? fun t => !t.encrypted).isSome) := by
  unfold refusal?
  cases op.symbol.isSome <;> simp

/-- An operation with a symbol refuses some types for the first plaintext type among them. -/
theorem refusal?_of_find? {t : ValueType} (hsymbol : op.symbol.isSome = true)
    (hfirst : (types.find? fun t => !t.encrypted) = some t) :
    op.refusal? types = some (.plaintextOperator op.name t) := by
  rw [refusal?, if_pos hsymbol, hfirst, Option.map_some]

/-- An operation fails exactly on the types that it refuses. -/
theorem symbolsOn_eq_error_iff : op.symbolsOn types = .error e ↔ op.refusal? types = some e := by
  unfold symbolsOn refusal?
  cases op.symbol with
  | none => simp
  | some symbol =>
    have hsteps : ∀ t, (∃ e, op.symbolOn? symbol t = .error e) ↔ (!t.encrypted) = true := by
      simp [symbolOn?_eq_error_iff]
    simp only [bind_eq_error_iff, mapM_eq_error_iff_find? hsteps, symbolOn?_eq_error_iff, pure,
      Except.pure, reduceCtorEq, and_false, exists_false, or_false, Option.isSome_some, if_true,
      Option.map_eq_some_iff]
    refine exists_congr fun t => and_congr_right fun hfirst => ?_
    have hplain : t.encrypted = false := by simpa using List.find?_some hfirst
    rw [and_iff_right hplain, eq_comm]

end Shorthand

/-- The symbols of all operations are refused to the first plaintext type, by the first operation
that has one. -/
theorem symbolsOn_eq_error_iff : symbolsOn types = .error e ↔
    ∃ op t, Shorthand.all.find? (fun op => op.symbol.isSome) = some op ∧
      types.find? (fun t => !t.encrypted) = some t ∧ e = .plaintextOperator op.name t := by
  have hsteps : ∀ op : Shorthand, (∃ e, op.symbolsOn types = .error e) ↔
      (op.refusal? types).isSome = true := by
    simp [Shorthand.symbolsOn_eq_error_iff, Option.isSome_iff_exists]
  unfold symbolsOn
  simp only [bind_eq_error_iff, mapM_eq_error_iff_find? hsteps, Shorthand.symbolsOn_eq_error_iff,
    pure, Except.pure, reduceCtorEq, and_false, exists_false, or_false]
  cases hfirst : types.find? fun t => !t.encrypted with
  | none => simp [Shorthand.refusal?, hfirst]
  | some t =>
    -- Every operation with a symbol refuses the type, so the first of them is the first to do so.
    simp only [Shorthand.isSome_refusal?, hfirst, Option.isSome_some, Bool.and_true,
      Option.some.injEq, exists_and_left, exists_eq_left']
    refine exists_congr fun op => and_congr_right fun hop => ?_
    have hsymbol : op.symbol.isSome = true := by simpa using List.find?_some hop
    rw [Shorthand.refusal?_of_find? hsymbol hfirst, Option.some.injEq, eq_comm]

/-- The symbols of all operations are refused exactly if one of the types is plaintext. -/
theorem exists_symbolsOn_eq_error_iff :
    (∃ e, symbolsOn types = .error e) ↔ ∃ t ∈ types, t.encrypted = false := by
  simp only [symbolsOn_eq_error_iff]
  constructor
  · intro h
    obtain ⟨e, op, t, -, hfirst, -⟩ := h
    exact ⟨t, List.mem_of_find?_eq_some hfirst, by simpa using List.find?_some hfirst⟩
  · intro h
    obtain ⟨t, ht, hplain⟩ := h
    have hsome : (types.find? fun t => !t.encrypted).isSome = true :=
      List.find?_isSome.2 ⟨t, ht, by rw [hplain]; rfl⟩
    obtain ⟨first, hfirst⟩ := Option.isSome_iff_exists.1 hsome
    exact ⟨_, _, first, rfl, hfirst, rfl⟩

/-! ## Attachments -/

/-- The types among some that the symbol of an operation is attached to, each with the operation. A
comparison-only type is left out unless the operation is bitwise. -/
def Shorthand.attachments (op : Shorthand) (types : List ValueType) :
    List (Shorthand × ValueType) :=
  (types.filter fun t => !t.isComparisonOnly || isBitwise op.name).map fun t => (op, t)

/-- What symbols are attached to some types: each operation that has a symbol, in the order of the
table, is paired with those types that take it, in the order of the types. -/
def attachments (types : List ValueType) : List (Shorthand × ValueType) :=
  (Shorthand.all.filter fun op => op.symbol.isSome).flatMap fun op => op.attachments types

/-- A bitwise operation has an attachment for every type, and any other operation has one for every
type that is not comparison-only. -/
theorem Shorthand.length_attachments (op : Shorthand) (types : List ValueType) :
    (op.attachments types).length =
      if isBitwise op.name then types.length else types.countP fun t => !t.isComparisonOnly := by
  unfold attachments
  rw [List.length_map, ← List.countP_eq_length_filter]
  cases isBitwise op.name <;> simp

/-- Several operations have the attachments of the bitwise ones and those of the others. -/
theorem length_flatMap_attachments (ops : List Shorthand) (types : List ValueType) :
    (ops.flatMap fun op => op.attachments types).length =
      ops.countP (fun op => !isBitwise op.name) * types.countP (fun t => !t.isComparisonOnly) +
        ops.countP (fun op => isBitwise op.name) * types.length := by
  induction ops with
  | nil => simp
  | cons op ops ih =>
    rw [List.flatMap_cons, List.length_append, ih, op.length_attachments, List.countP_cons,
      List.countP_cons]
    cases isBitwise op.name <;> grind

/-- Of the operations with a symbol, five are not bitwise and four are. -/
theorem length_attachments (types : List ValueType) : (attachments types).length =
    5 * types.countP (fun t => !t.isComparisonOnly) + 4 * types.length := by
  have hothers : (Shorthand.all.filter fun op => op.symbol.isSome).countP
      (fun op => !isBitwise op.name) = 5 := by decide
  have hbitwise : (Shorthand.all.filter fun op => op.symbol.isSome).countP
      (fun op => isBitwise op.name) = 4 := by decide
  rw [attachments, length_flatMap_attachments, hothers, hbitwise]

/-! ## Declarations -/

namespace Shorthand

/-- A declaration attaches the symbol of an operation to a type. It is the text that does so, and of
the directives for the operations of the table it has the one for this operation and this type and
no other. -/
structure AttachedBy (op : Shorthand) (t : ValueType) (declaration : String) : Prop where
  /-- The declaration is the text for the operation, its symbol and the type. -/
  text : ∃ symbol ∈ op.symbol,
    declaration = (symbolCode op.name symbol t op.unary op.returnsBool).render
  /-- The symbol of the operation, and no other, is attached to the type, and to no other. -/
  directive : ∀ op' ∈ all, ∀ symbol ∈ op'.symbol, ∀ t',
    Attaches [declaration] op'.name symbol t' ↔ op' = op ∧ t' = t

/-- Whether a declaration attaches the symbol of an operation, to whichever encrypted type. -/
def isAttachedIn (op : Shorthand) (declaration : String) : Bool :=
  op.symbol.any fun symbol => ValueType.encryptedTypes.any fun t =>
    Attaches [declaration] op.name symbol t

variable {op op' : Shorthand} {t : ValueType} {declaration : String}

/-- The text for an operation of the table, its symbol and a type attaches the symbol to it. -/
theorem attachedBy_render {symbol : String} (hop : op ∈ all) (hsymbol : symbol ∈ op.symbol) :
    op.AttachedBy t (symbolCode op.name symbol t op.unary op.returnsBool).render where
  text := ⟨symbol, hsymbol, rfl⟩
  directive := by
    intro op' hop' symbol' hsymbol' t'
    simp only [Attaches, List.mem_singleton, exists_eq_left]
    exact symbolDirective_mem_lines_iff hop hop' hsymbol hsymbol'

/-- Only one declaration attaches the symbol of an operation to a type. -/
theorem AttachedBy.unique {declaration' : String} (h : op.AttachedBy t declaration)
    (h' : op.AttachedBy t declaration') : declaration = declaration' := by
  obtain ⟨symbol, hsymbol, rfl⟩ := h.text
  obtain ⟨symbol', hsymbol', rfl⟩ := h'.text
  rw [Option.mem_unique hsymbol hsymbol']

/-- A declaration for an encrypted type attaches the symbol of its operation and of no other one. -/
theorem AttachedBy.isAttachedIn_iff (h : op.AttachedBy t declaration) (ht : t.encrypted = true)
    (hop' : op' ∈ all) : op'.isAttachedIn declaration = true ↔ op' = op := by
  unfold isAttachedIn
  simp only [Option.any_eq_true, List.any_eq_true, decide_eq_true_eq]
  constructor
  · intro hattached
    obtain ⟨symbol, hsymbol, t', -, hattaches⟩ := hattached
    exact ((h.directive op' hop' symbol hsymbol t').1 hattaches).1
  · rintro rfl
    obtain ⟨symbol, hsymbol, -⟩ := h.text
    exact ⟨symbol, hsymbol, t, ValueType.mem_encryptedTypes_iff.2 ht,
      (h.directive op' hop' symbol hsymbol t).2 ⟨rfl, rfl⟩⟩

/-- The declarations of an operation with a symbol are those of its attachments. -/
theorem forall₂_declarations (hop : op ∈ all) (hsymbol : op.symbol.isSome = true) :
    List.Forall₂ (fun p declaration => p.1.AttachedBy p.2 declaration) (op.attachments types)
      (op.declarations types) := by
  obtain ⟨symbol, hsome⟩ := Option.isSome_iff_exists.1 hsymbol
  unfold attachments declarations
  rw [hsome]
  show List.Forall₂ _ (List.map _ _) (List.map _ _)
  rw [List.forall₂_map_left_iff, List.forall₂_map_right_iff]
  exact List.forall₂_same.2 fun t _ => attachedBy_render hop hsome

/-- Among the declarations of all operations on encrypted types, those of one operation are told by
its symbol. -/
theorem filter_isAttachedIn (hop : op ∈ all) (h : ∀ t ∈ types, t.encrypted = true) :
    (all.flatMap fun op => op.declarations types).filter op.isAttachedIn =
      op.declarations types := by
  have hattached : ∀ op' ∈ all, ∀ declaration ∈ op'.declarations types,
      op.isAttachedIn declaration = true ↔ op = op' := by
    intro op' hop' declaration hdeclaration
    obtain ⟨symbol, hsymbol, t, ht, -, rfl⟩ := mem_declarations_iff.1 hdeclaration
    exact (attachedBy_render hop' hsymbol).isAttachedIn_iff (h t ht) hop
  have hnodup : all.Nodup := .of_map name (by decide +kernel)
  -- The filter empties the part of every other operation and leaves that of this one as it is.
  rw [List.filter_flatMap, flatMap_eq_of_forall_ne hnodup hop, List.filter_eq_self]
  · exact fun declaration hdeclaration => (hattached op hop declaration hdeclaration).2 rfl
  · intro op' hop' hne
    rw [List.filter_eq_nil_iff]
    intro declaration hdeclaration hown
    exact hne ((hattached op' hop' declaration hdeclaration).1 hown).symm

/-- With more types an operation has more declarations behind those that it had. -/
theorem declarations_append (op : Shorthand) (types more : List ValueType) :
    op.declarations (types ++ more) = op.declarations types ++ op.declarations more := by
  unfold declarations
  cases op.symbol with
  | none => rfl
  | some symbol => simp only [List.filter_append, List.map_append]

end Shorthand

/-- The declarations of all operations are those of the attachments, in the same order. -/
theorem forall₂_attachments (types : List ValueType) :
    List.Forall₂ (fun p declaration => p.1.AttachedBy p.2 declaration) (attachments types)
      (Shorthand.all.flatMap fun op => op.declarations types) := by
  unfold attachments
  rw [flatMap_filter]
  refine forall₂_flatMap fun op hop => ?_
  split
  · next hsymbol => exact Shorthand.forall₂_declarations hop hsymbol
  · next hsymbol =>
    rw [Shorthand.declarations, Option.not_isSome_iff_eq_none.1 hsymbol]
    exact .nil

variable {declarations : List String}

/-- The symbols of all operations come to declarations exactly if no type is plaintext, and then to
those of the attachments. -/
theorem symbolsOn_eq_ok_iff : symbolsOn types = .ok declarations ↔
    (∀ t ∈ types, t.encrypted = true) ∧
      List.Forall₂ (fun p declaration => p.1.AttachedBy p.2 declaration) (attachments types)
        declarations := by
  constructor
  · intro h
    have hencrypted : ∀ t ∈ types, t.encrypted = true := by
      -- A plaintext type anywhere in the list would have been refused.
      intro t ht
      by_contra hplain
      obtain ⟨e, he⟩ :=
        exists_symbolsOn_eq_error_iff.2 ⟨t, ht, Bool.eq_false_of_not_eq_true hplain⟩
      rw [h] at he
      exact nomatch he
    rw [symbolsOn_eq_ok hencrypted, Except.ok.injEq] at h
    rw [← h]
    exact ⟨hencrypted, forall₂_attachments types⟩
  · intro h
    obtain ⟨hencrypted, hdeclarations⟩ := h
    -- Each attachment determines its declaration, so there is one such list.
    have hunique : Relator.RightUnique fun (p : Shorthand × ValueType) declaration =>
        p.1.AttachedBy p.2 declaration := fun _ _ _ h h' => h.unique h'
    rw [symbolsOn_eq_ok hencrypted, hunique.forall₂ (forall₂_attachments types) hdeclarations]

/-- The part of an operation in what some types get are its own declarations. -/
theorem filter_isAttachedIn_of_symbolsOn (h : symbolsOn types = .ok declarations) {op : Shorthand}
    (hop : op ∈ Shorthand.all) : declarations.filter op.isAttachedIn = op.declarations types := by
  have hencrypted := (symbolsOn_eq_ok_iff.1 h).1
  rw [symbolsOn_eq_ok hencrypted, Except.ok.injEq] at h
  rw [← h, Shorthand.filter_isAttachedIn hop hencrypted]

/-- Types that get declarations apart get them together, where each operation has those for the
first types before those for the others. -/
theorem symbolsOn_append {more : List ValueType} {moreDeclarations : List String}
    (h : symbolsOn types = .ok declarations) (hmore : symbolsOn more = .ok moreDeclarations) :
    ∃ joined, symbolsOn (types ++ more) = .ok joined ∧ ∀ op ∈ Shorthand.all,
      joined.filter op.isAttachedIn =
        declarations.filter op.isAttachedIn ++ moreDeclarations.filter op.isAttachedIn := by
  have hjoined := symbolsOn_eq_ok
    (List.forall_mem_append.2 ⟨(symbolsOn_eq_ok_iff.1 h).1, (symbolsOn_eq_ok_iff.1 hmore).1⟩)
  refine ⟨_, hjoined, fun op hop => ?_⟩
  rw [filter_isAttachedIn_of_symbolsOn hjoined hop, filter_isAttachedIn_of_symbolsOn h hop,
    filter_isAttachedIn_of_symbolsOn hmore hop, op.declarations_append]

/-! ## The outcome -/

/-- What the symbols of all operations come to on any types. They are refused exactly if one of the
types is plaintext, and then the first operation that has a symbol refuses the first such type.
Otherwise each operation with a symbol has one declaration for each type that takes it, in the order
of the operations and for one operation in that of the types. That makes five for each type that is
not comparison-only, and four more for each type. With more types, each operation has more
declarations behind those that it had. -/
theorem symbolsOn_outcome (types : List ValueType) :
    ((∃ e, symbolsOn types = .error e) ↔ ∃ t ∈ types, t.encrypted = false) ∧
    (∀ e, symbolsOn types = .error e ↔
      ∃ op t, Shorthand.all.find? (fun op => op.symbol.isSome) = some op ∧
        types.find? (fun t => !t.encrypted) = some t ∧ e = .plaintextOperator op.name t) ∧
    (∀ declarations, symbolsOn types = .ok declarations ↔
      (∀ t ∈ types, t.encrypted = true) ∧
        List.Forall₂ (fun p declaration => p.1.AttachedBy p.2 declaration) (attachments types)
          declarations) ∧
    (∀ declarations, symbolsOn types = .ok declarations → declarations.length =
      5 * types.countP (fun t => !t.isComparisonOnly) + 4 * types.length) ∧
    (∀ more declarations moreDeclarations, symbolsOn types = .ok declarations →
      symbolsOn more = .ok moreDeclarations →
        ∃ joined, symbolsOn (types ++ more) = .ok joined ∧ ∀ op ∈ Shorthand.all,
          joined.filter op.isAttachedIn =
            declarations.filter op.isAttachedIn ++ moreDeclarations.filter op.isAttachedIn) := by
  refine ⟨exists_symbolsOn_eq_error_iff, fun e => symbolsOn_eq_error_iff,
    fun declarations => symbolsOn_eq_ok_iff, fun declarations h => ?_,
    fun more declarations moreDeclarations h hmore => symbolsOn_append h hmore⟩
  rw [← (symbolsOn_eq_ok_iff.1 h).2.length_eq, length_attachments]

/-- Of two plaintext types behind an encrypted one, the first is refused. A type that is there twice
has all of its declarations twice, and a byte string behind it has those of the bitwise operations,
each behind the others of its operation. -/
theorem symbolsOn_outcome_of_repeated_types :
    symbolsOn [⟨true, .uint8⟩, .bool, .bytes] = .error (.plaintextOperator "add" .bool) ∧
    ∃ declarations moreDeclarations joined,
      symbolsOn [.ebool, ⟨true, .uint8⟩, ⟨true, .uint8⟩] = .ok declarations ∧
      declarations.length = 22 ∧
      symbolsOn [.ebytes] = .ok moreDeclarations ∧ moreDeclarations.length = 4 ∧
      symbolsOn [.ebool, ⟨true, .uint8⟩, ⟨true, .uint8⟩, .ebytes] = .ok joined ∧
      joined.filter (Shorthand.binary "and" "&").isAttachedIn =
        declarations.filter (Shorthand.binary "and" "&").isAttachedIn ++
          moreDeclarations.filter (Shorthand.binary "and" "&").isAttachedIn := by
  have hfirst := @symbolsOn_eq_ok [.ebool, ⟨true, .uint8⟩, ⟨true, .uint8⟩] (by decide)
  have hmore := @symbolsOn_eq_ok [.ebytes] (by decide)
  obtain ⟨-, -, -, hlength, happend⟩ :=
    symbolsOn_outcome [.ebool, ⟨true, .uint8⟩, ⟨true, .uint8⟩]
  obtain ⟨joined, hjoined, hparts⟩ := happend _ _ _ hfirst hmore
  refine ⟨((symbolsOn_outcome _).2.1 _).2 ⟨.binary "add" "+", .bool, rfl, rfl, rfl⟩,
    _, _, joined, hfirst, hlength _ hfirst, hmore,
    (symbolsOn_outcome [.ebytes]).2.2.2.1 _ hmore, hjoined, hparts _ ?_⟩
  simp [Shorthand.all]

end FheSolidity
