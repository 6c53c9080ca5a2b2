import FheSolidity.Proofs.Promotion

/-!
# Promotion as a join

Types are ordered by rank, and promotion is the join of the inputs in that order: no input outranks
the result, and the result does not outrank any type that none of the inputs outranks
(`rank_promote_le_iff`). A promoted type is encrypted, so that its rank determines it. What else is
known about promotion follows from these two facts. Inputs that are bounded by the same ranks
promote to one type (`promote_eq_promote_of_forall_le_iff`), which is why neither order nor
repetition nor the class of an input matters and why promotion can be done in parts
(`promote_append`). Wider inputs are bounded by fewer ranks, which is why promotion is monotone
(`rank_promote_le_of_forall₂`). And the widest of the encrypted forms of the inputs are all one
type, so that it does not matter which of them is picked (`promote_eq_of_isWidest`).
-/

namespace FheSolidity

/-! ## The highest rank -/

/-- The highest rank among some types, or the lowest of all ranks if there are none. -/
def highestRank (ts : List ValueType) : Nat :=
  (ts.map ValueType.rank).max?.getD 0

/-- The highest rank is the least that no type exceeds. -/
theorem highestRank_le_iff {ts : List ValueType} {r : Nat} :
    highestRank ts ≤ r ↔ ∀ t ∈ ts, t.rank ≤ r := by
  rw [← List.forall_mem_map (P := (· ≤ r)), highestRank]
  cases hmax : (ts.map ValueType.rank).max? with
  | none =>
    rw [List.max?_eq_none_iff.1 hmax]
    exact iff_of_true (Nat.zero_le r) (List.forall_mem_nil _)
  | some highest => exact List.max?_le_iff hmax

/-- The rank of a promoted type is the least that no input exceeds. -/
theorem rank_promote_le_iff {inputs : List ValueType} {r : Nat} :
    (promote inputs).rank ≤ r ↔ ∀ t ∈ inputs, t.rank ≤ r := by
  rw [promote_eq]
  constructor
  · intro h t ht
    exact (rank_le_rank_widest ht).trans h
  · intro h
    by_cases hnil : inputs = []
    · rw [hnil]
      exact Nat.zero_le r
    · -- The widest input is as wide as one of them.
      obtain ⟨t, ht, hrank⟩ := exists_rank_eq_rank_widest hnil
      have hle : t.rank ≤ r := h t ht
      rw [hrank] at hle
      exact hle

/-- The rank of a promoted type is the highest among the inputs. -/
theorem rank_promote (inputs : List ValueType) : (promote inputs).rank = highestRank inputs :=
  eq_of_forall_ge_iff fun _ => rank_promote_le_iff.trans highestRank_le_iff.symm

/-- A promoted type is encrypted. -/
theorem encrypted_promote (inputs : List ValueType) : (promote inputs).encrypted = true := by
  rw [promote_eq]

/-- An encrypted type of the rank of a promoted type is that type. -/
theorem promote_eq_of_rank_eq {inputs : List ValueType} {t : ValueType} (ht : t.encrypted = true)
    (hrank : (promote inputs).rank = t.rank) : promote inputs = t :=
  ValueType.eq_of_rank_eq ((encrypted_promote inputs).trans ht.symm) hrank

/-! ## What promotion does not depend on -/

/-- Inputs that are bounded by the same ranks promote to the same type. -/
theorem promote_eq_promote_of_forall_le_iff {xs ys : List ValueType}
    (h : ∀ r, (∀ x ∈ xs, x.rank ≤ r) ↔ ∀ y ∈ ys, y.rank ≤ r) : promote xs = promote ys := by
  apply promote_eq_of_rank_eq (encrypted_promote ys)
  apply eq_of_forall_ge_iff
  intro r
  calc (promote xs).rank ≤ r
    _ ↔ ∀ x ∈ xs, x.rank ≤ r := rank_promote_le_iff
    _ ↔ ∀ y ∈ ys, y.rank ≤ r := h r
    _ ↔ (promote ys).rank ≤ r := rank_promote_le_iff.symm

/-- Promotion can be done in two parts, whose results are promoted again. -/
theorem promote_append (xs ys : List ValueType) :
    promote (xs ++ ys) = promote [promote xs, promote ys] := by
  apply promote_eq_promote_of_forall_le_iff
  intro r
  calc (∀ t ∈ xs ++ ys, t.rank ≤ r)
    _ ↔ (∀ x ∈ xs, x.rank ≤ r) ∧ ∀ y ∈ ys, y.rank ≤ r := List.forall_mem_append
    _ ↔ (promote xs).rank ≤ r ∧ (promote ys).rank ≤ r := by
        rw [rank_promote_le_iff, rank_promote_le_iff]
    _ ↔ ∀ t ∈ [promote xs, promote ys], t.rank ≤ r := by
        rw [List.forall_mem_cons, List.forall_mem_singleton]

/-- A rank that bounds some types bounds the types that they outrank place by place. -/
theorem forall_rank_le_of_forall₂ {xs ys : List ValueType}
    (h : List.Forall₂ (fun x y => x.rank ≤ y.rank) xs ys) {r : Nat}
    (hys : ∀ y ∈ ys, y.rank ≤ r) : ∀ x ∈ xs, x.rank ≤ r := by
  induction h with
  | nil => exact List.forall_mem_nil _
  | cons hle _ ih =>
    rw [List.forall_mem_cons] at hys ⊢
    exact ⟨hle.trans hys.1, ih hys.2⟩

/-- Wider inputs promote to a type that is at least as wide. -/
theorem rank_promote_le_of_forall₂ {xs ys : List ValueType}
    (h : List.Forall₂ (fun x y => x.rank ≤ y.rank) xs ys) :
    (promote xs).rank ≤ (promote ys).rank :=
  rank_promote_le_iff.2 (forall_rank_le_of_forall₂ h (rank_promote_le_iff.1 le_rfl))

/-- Inputs of the same ranks place by place promote to the same type. -/
theorem promote_eq_promote_of_forall₂ {xs ys : List ValueType}
    (h : List.Forall₂ (fun x y => x.rank = y.rank) xs ys) : promote xs = promote ys := by
  have hle : List.Forall₂ (fun x y => x.rank ≤ y.rank) xs ys := h.imp fun _ _ => le_of_eq
  have hge : List.Forall₂ (fun y x => y.rank ≤ x.rank) ys xs := (h.imp fun _ _ => ge_of_eq).flip
  apply promote_eq_of_rank_eq (encrypted_promote ys)
  exact Nat.le_antisymm (rank_promote_le_of_forall₂ hle) (rank_promote_le_of_forall₂ hge)

/-- A type stands for another if it is the same or its encrypted or plaintext counterpart. -/
def ValueType.IsCounterpart (t u : ValueType) : Prop :=
  u = t ∨ u = t.toEncrypted ∨ u = t.toPlaintext

/-- Counterparts have the same rank. -/
theorem ValueType.IsCounterpart.rank_eq {t u : ValueType} (h : t.IsCounterpart u) :
    t.rank = u.rank := by
  rcases h with rfl | rfl | rfl <;> rfl

/-! ## Picking a widest type -/

/-- One of some types is a widest one if no other outranks it. -/
structure ValueType.IsWidest (t : ValueType) (ts : List ValueType) : Prop where
  mem : t ∈ ts
  highest : ∀ u ∈ ts, u.rank ≤ t.rank

/-- Whichever of the widest encrypted forms of the inputs is picked, it is the promoted type. -/
theorem promote_eq_of_isWidest {inputs : List ValueType} {t : ValueType}
    (h : t.IsWidest (inputs.map ValueType.toEncrypted)) : promote inputs = t := by
  obtain ⟨input, hinput, rfl⟩ := List.mem_map.1 h.mem
  have hle := List.forall_mem_map.1 h.highest
  rw [promote_eq_iff (List.ne_nil_of_mem hinput)]
  exact ⟨rfl, ⟨input, hinput, rfl⟩, hle⟩

/-- The last of some types that none of the others outranks, if there are any. -/
def lastWidest? : List ValueType → Option ValueType
  | [] => none
  | t :: ts =>
    match lastWidest? ts with
    | some u => if t.rank ≤ u.rank then some u else some t
    | none => some t

/-- Among any types the last widest one is found. -/
theorem exists_isWidest_lastWidest? {ts : List ValueType} (h : ts ≠ []) :
    ∃ t, lastWidest? ts = some t ∧ t.IsWidest ts := by
  induction ts with
  | nil => exact absurd rfl h
  | cons t ts ih =>
    by_cases hts : ts = []
    · rw [hts]
      exact ⟨t, rfl, List.mem_singleton_self t, List.forall_mem_singleton.2 le_rfl⟩
    · obtain ⟨u, hu, hwidest⟩ := ih hts
      rw [lastWidest?, hu]
      by_cases hle : t.rank ≤ u.rank
      · refine ⟨u, if_pos hle, List.mem_cons_of_mem _ hwidest.mem, ?_⟩
        exact List.forall_mem_cons.2 ⟨hle, hwidest.highest⟩
      · -- The first type outranks the widest of the others, and with it all of them.
        refine ⟨t, if_neg hle, List.mem_cons_self, ?_⟩
        have hlt : u.rank ≤ t.rank := (not_le.1 hle).le
        exact List.forall_mem_cons.2 ⟨le_rfl, fun v hv => (hwidest.highest v hv).trans hlt⟩

/-- Without an exception for byte strings, the last of the widest encrypted forms is the promoted
type, too. -/
theorem promote_eq_lastWidest? (inputs : List ValueType) :
    promote inputs = (lastWidest? (inputs.map ValueType.toEncrypted)).getD .ebool := by
  by_cases hnil : inputs = []
  · rw [hnil]
    rfl
  · have hforms : inputs.map ValueType.toEncrypted ≠ [] := mt List.map_eq_nil_iff.1 hnil
    obtain ⟨t, ht, hwidest⟩ := exists_isWidest_lastWidest? hforms
    rw [ht, promote_eq_of_isWidest hwidest]
    rfl

/-! ## The join -/

/-- Promotion gives the one encrypted type of the highest rank among the inputs, and the last of the
widest encrypted forms is that type even with byte strings among the inputs. It depends neither on
the order nor on the repetition of inputs, nor on which of them are replaced by their counterparts,
it can be done in parts, and it is monotone. -/
theorem promote_join (xs : List ValueType) :
    (∀ t, promote xs = t ↔ t.encrypted = true ∧ t.rank = highestRank xs) ∧
    promote xs = (lastWidest? (xs.map ValueType.toEncrypted)).getD .ebool ∧
    (∀ ys, (∀ t, t ∈ xs ↔ t ∈ ys) → promote xs = promote ys) ∧
    (∀ ys, List.Forall₂ ValueType.IsCounterpart xs ys → promote xs = promote ys) ∧
    (∀ ys, promote (xs ++ ys) = promote [promote xs, promote ys]) ∧
    (∀ ys, List.Forall₂ (fun x y => x.rank ≤ y.rank) xs ys →
      (promote xs).rank ≤ (promote ys).rank) := by
  refine ⟨?_, promote_eq_lastWidest? xs, ?_, ?_, promote_append xs, ?_⟩
  · intro t
    constructor
    · rintro rfl
      exact ⟨encrypted_promote xs, rank_promote xs⟩
    · intro h
      obtain ⟨hencrypted, hrank⟩ := h
      exact promote_eq_of_rank_eq hencrypted ((rank_promote xs).trans hrank.symm)
  · intro ys hys
    apply promote_eq_promote_of_forall_le_iff
    intro r
    simp only [hys]
  · intro ys hys
    exact promote_eq_promote_of_forall₂ (hys.imp fun _ _ => ValueType.IsCounterpart.rank_eq)
  · intro ys hys
    exact rank_promote_le_of_forall₂ hys

/-- Two encrypted and one plaintext input, which are reordered with a repetition, replaced by their
counterparts, and widened up to a byte string. -/
theorem promote_join_of_mixed_inputs :
    promote [.ebool, ⟨false, .uint32⟩, ⟨true, .uint8⟩] = ⟨true, .uint32⟩ ∧
    ((∀ t, t ∈ [.ebool, ⟨false, .uint32⟩, ⟨true, .uint8⟩] ↔
        t ∈ [⟨true, .uint8⟩, ⟨false, .uint32⟩, .ebool, (⟨false, .uint32⟩ : ValueType)]) ∧
      promote [.ebool, ⟨false, .uint32⟩, ⟨true, .uint8⟩] =
        promote [⟨true, .uint8⟩, ⟨false, .uint32⟩, .ebool, ⟨false, .uint32⟩]) ∧
    (List.Forall₂ ValueType.IsCounterpart [.ebool, ⟨false, .uint32⟩, ⟨true, .uint8⟩]
        [.bool, ⟨true, .uint32⟩, ⟨true, .uint8⟩] ∧
      promote [.ebool, ⟨false, .uint32⟩, ⟨true, .uint8⟩] =
        promote [.bool, ⟨true, .uint32⟩, ⟨true, .uint8⟩]) ∧
    (List.Forall₂ (fun x y : ValueType => x.rank ≤ y.rank)
        [.ebool, ⟨false, .uint32⟩, ⟨true, .uint8⟩]
        [.bytes, ⟨true, .uint32⟩, ⟨false, .uint8⟩] ∧
      (promote [.ebool, ⟨false, .uint32⟩, ⟨true, .uint8⟩]).rank ≤
        (promote [.bytes, ⟨true, .uint32⟩, ⟨false, .uint8⟩]).rank) := by
  obtain ⟨hunique, -, hmembers, hcounterparts, -, hmonotone⟩ :=
    promote_join [.ebool, ⟨false, .uint32⟩, ⟨true, .uint8⟩]
  have hsame : ∀ t, t ∈ [.ebool, ⟨false, .uint32⟩, ⟨true, .uint8⟩] ↔
      t ∈ [⟨true, .uint8⟩, ⟨false, .uint32⟩, .ebool, (⟨false, .uint32⟩ : ValueType)] := by
    intro t
    simp only [List.mem_cons, List.not_mem_nil, or_false]
    tauto
  have hreplaced : List.Forall₂ ValueType.IsCounterpart
      [.ebool, ⟨false, .uint32⟩, ⟨true, .uint8⟩] [.bool, ⟨true, .uint32⟩, ⟨true, .uint8⟩] :=
    .cons (.inr (.inr rfl)) (.cons (.inr (.inl rfl)) (.cons (.inl rfl) .nil))
  have hwidened : List.Forall₂ (fun x y : ValueType => x.rank ≤ y.rank)
      [.ebool, ⟨false, .uint32⟩, ⟨true, .uint8⟩] [.bytes, ⟨true, .uint32⟩, ⟨false, .uint8⟩] :=
    .cons (by decide) (.cons (by decide) (.cons (by decide) .nil))
  exact ⟨(hunique _).2 ⟨rfl, by decide⟩, ⟨hsame, hmembers _ hsame⟩,
    ⟨hreplaced, hcounterparts _ hreplaced⟩, ⟨hwidened, hmonotone _ hwidened⟩⟩

end FheSolidity
