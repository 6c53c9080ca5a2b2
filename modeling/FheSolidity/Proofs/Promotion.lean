import Mathlib
import FheSolidity.Promotion

/-!
# Which result a rule gives

`ResultRule.Gives` says which type a rule gives on some inputs, without the functions that look for
it, and `ResultRule.resolve_eq_ok_iff` that these find exactly that type. For promotion the type is
encrypted and its rank is the greatest among the inputs (`promote_eq_iff`). The answer that a byte
string asks for is no exception, since no type is wider than a byte string (`promote_eq`).
-/

namespace FheSolidity

/-! ## Ranks -/

namespace Width

/-- A width stands at its rank in the list of all widths. -/
theorem getElem?_all_rank (w : Width) : all[w.rank]? = some w := by
  cases w <;> rfl

/-- Two widths of one rank are the same width. -/
theorem rank_injective : Function.Injective rank := by
  intro v w h
  have hv := v.getElem?_all_rank
  rw [h, w.getElem?_all_rank] at hv
  exact (Option.some.inj hv).symm

/-- No width is wider than that of byte strings. -/
theorem rank_le_rank_bytes (w : Width) : w.rank ≤ bytes.rank := by
  cases w <;> decide

/-- The rank of the wider of two widths is the greater of their ranks. -/
theorem rank_max (v w : Width) : (v.max w).rank = Nat.max v.rank w.rank := by
  unfold Width.max
  split
  · next h => exact (Nat.max_eq_right h.le).symm
  · next h => exact (Nat.max_eq_left (not_lt.1 h)).symm

end Width

/-- A type is determined by its rank and by whether it is encrypted. -/
theorem ValueType.eq_of_rank_eq {t u : ValueType} (hencrypted : t.encrypted = u.encrypted)
    (hrank : t.rank = u.rank) : t = u := by
  obtain ⟨encrypted, width⟩ := t
  obtain ⟨encrypted', width'⟩ := u
  have hwidth : width = width' := Width.rank_injective hrank
  rw [hwidth, show encrypted = encrypted' from hencrypted]

/-! ## Promotion -/

/-- The widest of some types is at least as wide as each of them. -/
theorem rank_le_rank_widest {inputs : List ValueType} {t : ValueType} (h : t ∈ inputs) :
    t.rank ≤ (widest inputs).rank := by
  induction inputs with
  | nil => exact absurd h List.not_mem_nil
  | cons u rest ih =>
    rw [widest, Width.rank_max]
    rcases List.mem_cons.1 h with rfl | h
    · exact Nat.le_max_left _ _
    · exact (ih h).trans (Nat.le_max_right _ _)

/-- The widest of some types is as wide as one of them, if there are any. -/
theorem exists_rank_eq_rank_widest {inputs : List ValueType} (h : inputs ≠ []) :
    ∃ t ∈ inputs, t.rank = (widest inputs).rank := by
  induction inputs with
  | nil => exact absurd rfl h
  | cons u rest ih =>
    rw [widest, Width.rank_max]
    by_cases hrest : rest = []
    · rw [hrest]
      exact ⟨u, List.mem_cons_self, (Nat.max_eq_left (Nat.zero_le _)).symm⟩
    · -- Either the first input is the widest of all, or the widest of the others is.
      obtain ⟨t, ht, hrank⟩ := ih hrest
      rcases Nat.le_total u.width.rank (widest rest).rank with hle | hle
      · refine ⟨t, List.mem_cons_of_mem _ ht, ?_⟩
        rw [hrank]
        exact (Nat.max_eq_right hle).symm
      · exact ⟨u, List.mem_cons_self, (Nat.max_eq_left hle).symm⟩

/-- Promotion gives the encrypted type of the greatest width, byte strings included. -/
theorem promote_eq (inputs : List ValueType) : promote inputs = ⟨true, widest inputs⟩ := by
  unfold promote
  split
  · next h =>
    -- With a byte string among the inputs, the greatest width is that of byte strings.
    obtain ⟨t, ht, hbytes⟩ := List.any_eq_true.1 h
    have hwidth : t.width = .bytes := beq_iff_eq.1 hbytes
    have hle : t.width.rank ≤ (widest inputs).rank := rank_le_rank_widest ht
    rw [hwidth] at hle
    have hrank := Nat.le_antisymm hle (Width.rank_le_rank_bytes _)
    rw [← Width.rank_injective hrank]
    rfl
  · rfl

/-- Promotion gives the encrypted type whose rank is the greatest among the inputs. -/
theorem promote_eq_iff {inputs : List ValueType} (h : inputs ≠ []) {t : ValueType} :
    promote inputs = t ↔ t.encrypted = true ∧ (∃ input ∈ inputs, input.rank = t.rank) ∧
      ∀ input ∈ inputs, input.rank ≤ t.rank := by
  rw [promote_eq]
  constructor
  · rintro rfl
    exact ⟨rfl, exists_rank_eq_rank_widest h, fun _ => rank_le_rank_widest⟩
  · intro ht
    obtain ⟨hencrypted, ⟨input, hinput, hrank⟩, hle⟩ := ht
    obtain ⟨widestInput, hmem, hwidest⟩ := exists_rank_eq_rank_widest h
    -- Both types are encrypted, so that they are equal if neither is wider than the other.
    apply ValueType.eq_of_rank_eq hencrypted.symm
    have hge : t.rank ≤ (widest inputs).rank := hrank ▸ rank_le_rank_widest hinput
    have hle : (widest inputs).rank ≤ t.rank := hwidest ▸ hle widestInput hmem
    exact Nat.le_antisymm hle hge

/-- Promotion of operands of one encrypted type gives that type. -/
theorem promote_replicate {t : ValueType} (ht : t.encrypted = true) {n : Nat} (hn : n ≠ 0) :
    promote (List.replicate n t) = t := by
  have hne : List.replicate n t ≠ [] := by
    rw [ne_eq, List.replicate_eq_nil_iff]
    exact hn
  rw [promote_eq_iff hne]
  refine ⟨ht, ⟨t, List.mem_replicate.2 ⟨hn, rfl⟩, rfl⟩, ?_⟩
  intro input hinput
  rw [List.eq_of_mem_replicate hinput]

/-! ## Rules -/

/-- Which type a rule gives on some inputs. -/
inductive ResultRule.Gives (inputs : List ValueType) : ResultRule → ValueType → Prop
  /-- Promotion gives the encrypted type of the highest rank among the inputs. -/
  | promoted {t : ValueType} (encrypted : t.encrypted = true)
    (reached : ∃ input ∈ inputs, input.rank = t.rank)
    (highest : ∀ input ∈ inputs, input.rank ≤ t.rank) : Gives inputs .promoted t
  /-- Extraction gives the plaintext counterpart of the only input, which is encrypted. -/
  | extracted {input : ValueType} (only : inputs = [input]) (encrypted : input.encrypted = true) :
    Gives inputs .extracted input.toPlaintext
  /-- A fixed type is given whatever the inputs are. -/
  | exactly (t : ValueType) : Gives inputs (.exactly t) t

/-- Extraction finds the plaintext counterpart of an input that is encrypted and the only one. -/
theorem extractPlaintext_eq_ok_iff {function : String} {inputs : List ValueType} {t : ValueType} :
    extractPlaintext function inputs = .ok t ↔
      ∃ input, inputs = [input] ∧ input.encrypted = true ∧ input.toPlaintext = t := by
  unfold extractPlaintext
  split
  · next input =>
    rw [ite_eq_iff]
    constructor
    · intro h
      rcases h with ⟨hencrypted, h⟩ | ⟨-, h⟩
      · exact ⟨input, rfl, hencrypted, Except.ok.inj h⟩
      · exact nomatch h
    · intro h
      obtain ⟨_, honly, hencrypted, rfl⟩ := h
      obtain ⟨rfl, -⟩ := List.cons.inj honly
      exact .inl ⟨hencrypted, rfl⟩
  · next hmany =>
    refine iff_of_false (nomatch ·) ?_
    intro h
    obtain ⟨input, honly, -⟩ := h
    exact hmany input honly

/-- The result that is found is the one that the rule gives. -/
theorem ResultRule.resolve_eq_ok_iff {rule : ResultRule} {function : String}
    {inputs : List ValueType} (h : inputs ≠ []) {t : ValueType} :
    rule.resolve function inputs = .ok t ↔ rule.Gives inputs t := by
  cases rule with
  | promoted =>
    show Except.ok (promote inputs) = .ok t ↔ _
    rw [Except.ok.injEq, promote_eq_iff h]
    constructor
    · intro ht
      obtain ⟨hencrypted, hreached, hhighest⟩ := ht
      exact .promoted hencrypted hreached hhighest
    · intro ht
      cases ht with
      | promoted hencrypted hreached hhighest => exact ⟨hencrypted, hreached, hhighest⟩
  | extracted =>
    show extractPlaintext function inputs = .ok t ↔ _
    rw [extractPlaintext_eq_ok_iff]
    constructor
    · intro ht
      obtain ⟨input, honly, hencrypted, rfl⟩ := ht
      exact .extracted honly hencrypted
    · intro ht
      cases ht with
      | extracted honly hencrypted => exact ⟨_, honly, hencrypted, rfl⟩
  | exactly u =>
    show Except.ok u = .ok t ↔ _
    rw [Except.ok.injEq]
    constructor
    · rintro rfl
      exact .exactly u
    · intro ht
      cases ht with
      | exactly => rfl

end FheSolidity
