import Mathlib

/-!
# Traversals

A traversal of a list that may fail succeeds exactly if every step does, and then it has the results
of the steps in order. Otherwise it fails as the first failing step does. One that cannot fail may
skip elements or never see them.
-/

namespace FheSolidity

variable {α β ε : Type}

/-- What the elements that pass a filter are mapped to is what all are mapped to if the others are
mapped to nothing. -/
theorem flatMap_filter (p : α → Bool) (f : α → List β) (list : List α) :
    (list.filter p).flatMap f = list.flatMap fun a => if p a then f a else [] := by
  induction list with
  | nil => rfl
  | cons a list ih =>
    rw [List.flatMap_cons, ← ih, List.filter_cons]
    split
    · rw [List.flatMap_cons]
    · rw [List.nil_append]

/-- What the elements of a list without repetitions are mapped to, if all of them but one are mapped
to nothing, is what this one is mapped to. -/
theorem flatMap_eq_of_forall_ne {list : List α} (hnodup : list.Nodup) {a : α} (ha : a ∈ list)
    {f : α → List β} (h : ∀ b ∈ list, b ≠ a → f b = []) : list.flatMap f = f a := by
  obtain ⟨before, after, rfl⟩ := List.append_of_mem ha
  have hother : a ∉ before ++ after := (List.nodup_cons.1 (List.nodup_middle.1 hnodup)).1
  have hnothing : ∀ b ∈ before ++ after, f b = [] := by
    intro b hb
    refine h b (List.mem_append.2 ?_) (ne_of_mem_of_not_mem hb hother)
    exact (List.mem_append.1 hb).imp_right (List.mem_cons_of_mem a)
  rw [List.forall_mem_append] at hnothing
  rw [List.flatMap_append, List.flatMap_cons, List.flatMap_eq_nil_iff.2 hnothing.1,
    List.flatMap_eq_nil_iff.2 hnothing.2, List.nil_append, List.append_nil]

/-- What the elements of a list are mapped to in two ways is related part by part. -/
theorem forall₂_flatMap {γ : Type} {R : β → γ → Prop} {f : α → List β} {g : α → List γ}
    {list : List α} (h : ∀ a ∈ list, List.Forall₂ R (f a) (g a)) :
    List.Forall₂ R (list.flatMap f) (list.flatMap g) := by
  induction list with
  | nil => exact .nil
  | cons a list ih =>
    rw [List.forall_mem_cons] at h
    rw [List.flatMap_cons, List.flatMap_cons]
    exact List.rel_append h.1 (ih h.2)

/-- A traversal without reasons has results exactly if every step has one. -/
theorem mapM_eq_some_iff {f : α → Option β} {list : List α} {results : List β} :
    list.mapM f = some results ↔ List.Forall₂ (fun a b => f a = some b) list results := by
  induction list generalizing results with
  | nil =>
    rw [List.mapM_nil, List.forall₂_nil_left_iff]
    exact ⟨fun h => (Option.some.inj h).symm, fun h => h ▸ rfl⟩
  | cons a list ih =>
    rw [List.mapM_cons, List.forall₂_cons_left_iff]
    simp only [bind, pure, Option.bind_eq_some_iff, Option.some.injEq]
    constructor
    · intro h
      obtain ⟨b, hb, bs, hbs, rfl⟩ := h
      exact ⟨b, bs, hb, ih.1 hbs, rfl⟩
    · intro h
      obtain ⟨b, bs, hb, hbs, rfl⟩ := h
      exact ⟨b, hb, bs, ih.2 hbs, rfl⟩

/-- The results of a chain of two steps that succeeds. -/
theorem bind_eq_ok_iff {x : Except ε α} {f : α → Except ε β} {b : β} :
    x >>= f = .ok b ↔ ∃ a, x = .ok a ∧ f a = .ok b := by
  cases x with
  | ok a => simp [bind, Except.bind]
  | error e => simp [bind, Except.bind]

/-- A chain of two steps fails if the first one does, or if the second one does after it. -/
theorem bind_eq_error_iff {x : Except ε α} {f : α → Except ε β} {e : ε} :
    x >>= f = .error e ↔ x = .error e ∨ ∃ a, x = .ok a ∧ f a = .error e := by
  cases x with
  | ok a => simp [bind, Except.bind]
  | error e' => simp [bind, Except.bind]

/-- A step that fails exactly for some reason succeeds exactly if there is none. -/
theorem exists_eq_ok_iff {x : Except ε α} {reason? : Option ε}
    (h : ∀ e, x = .error e ↔ reason? = some e) : (∃ a, x = .ok a) ↔ reason? = none := by
  cases x with
  | ok a =>
    refine iff_of_true ⟨a, rfl⟩ ?_
    rw [Option.eq_none_iff_forall_ne_some]
    intro e he
    exact nomatch (h e).2 he
  | error e =>
    rw [(h e).1 rfl]
    refine iff_of_false ?_ (Option.some_ne_none e)
    intro hok
    obtain ⟨a, ha⟩ := hok
    exact nomatch ha

/-- A traversal succeeds exactly if every step does. -/
theorem mapM_eq_ok_iff {f : α → Except ε β} {list : List α} {results : List β} :
    list.mapM f = .ok results ↔ List.Forall₂ (fun a b => f a = .ok b) list results := by
  induction list generalizing results with
  | nil =>
    rw [List.mapM_nil, List.forall₂_nil_left_iff]
    exact ⟨fun h => (Except.ok.inj h).symm, fun h => h ▸ rfl⟩
  | cons a list ih =>
    rw [List.mapM_cons, List.forall₂_cons_left_iff]
    simp only [bind_eq_ok_iff]
    constructor
    · intro h
      obtain ⟨b, hb, bs, hbs, h⟩ := h
      exact ⟨b, bs, hb, ih.1 hbs, (Except.ok.inj h).symm⟩
    · intro h
      obtain ⟨b, bs, hb, hbs, rfl⟩ := h
      exact ⟨b, hb, bs, ih.2 hbs, rfl⟩

/-- A traversal succeeds exactly if every step does, and its results are those of the steps,
whatever stands for the result of a step that fails. -/
theorem mapM_eq_ok_iff_map {f : α → Except ε β} (missing : β) {list : List α} {results : List β} :
    list.mapM f = .ok results ↔
      (∀ a ∈ list, f a = .ok ((f a).toOption.getD missing)) ∧
        results = list.map fun a => (f a).toOption.getD missing := by
  rw [mapM_eq_ok_iff]
  constructor
  · intro h
    induction h with
    | nil => exact ⟨List.forall_mem_nil _, rfl⟩
    | @cons a b list results hstep _ ih =>
      have hresult : (f a).toOption.getD missing = b := by
        rw [hstep]
        rfl
      rw [List.map_cons, hresult, ih.2]
      refine ⟨List.forall_mem_cons.2 ⟨?_, ih.1⟩, rfl⟩
      rw [hresult, hstep]
  · intro h
    obtain ⟨hsteps, rfl⟩ := h
    rw [List.forall₂_map_right_iff, List.forall₂_same]
    exact hsteps

/-- Every result of a traversal is that of one of its steps. -/
theorem exists_of_mem_mapM {f : α → Except ε β} {list : List α} {results : List β}
    (h : list.mapM f = .ok results) {b : β} (hb : b ∈ results) : ∃ a ∈ list, f a = .ok b := by
  have hsteps := mapM_eq_ok_iff.1 h
  clear h
  induction hsteps with
  | nil => exact absurd hb List.not_mem_nil
  | cons ha _ ih =>
    rcases List.mem_cons.1 hb with rfl | hb
    · exact ⟨_, List.mem_cons_self, ha⟩
    · obtain ⟨a, hmem, hstep⟩ := ih hb
      exact ⟨a, List.mem_cons_of_mem _ hmem, hstep⟩

/-- A traversal fails as its first failing step does. -/
theorem mapM_eq_error_iff {f : α → Except ε β} {list : List α} {e : ε} :
    list.mapM f = .error e ↔
      ∃ before a after, list = before ++ a :: after ∧ (∀ b ∈ before, ∃ x, f b = .ok x) ∧
        f a = .error e := by
  induction list with
  | nil =>
    rw [List.mapM_nil]
    constructor
    · intro h
      exact nomatch h
    · intro h
      obtain ⟨before, a, after, h, -⟩ := h
      exact absurd h (by simp)
  | cons a list ih =>
    rw [List.mapM_cons, bind_eq_error_iff]
    simp only [bind_eq_error_iff]
    constructor
    · intro h
      rcases h with ha | ⟨x, hx, hrest | ⟨xs, -, h⟩⟩
      · exact ⟨[], a, list, rfl, by simp, ha⟩
      · -- The first step succeeds and stands before the one that fails.
        obtain ⟨before, b, after, rfl, hbefore, hb⟩ := ih.1 hrest
        refine ⟨a :: before, b, after, rfl, ?_, hb⟩
        intro c hc
        rcases List.mem_cons.1 hc with rfl | hc
        · exact ⟨x, hx⟩
        · exact hbefore c hc
      · exact nomatch h
    · intro h
      obtain ⟨before, b, after, h, hbefore, hb⟩ := h
      cases before with
      | nil =>
        obtain ⟨rfl, rfl⟩ := List.cons.inj h
        exact .inl hb
      | cons c before =>
        obtain ⟨rfl, rfl⟩ := List.cons.inj h
        obtain ⟨x, hx⟩ := hbefore a (List.mem_cons_self)
        refine .inr ⟨x, hx, .inl (ih.2 ⟨before, b, after, rfl, ?_, hb⟩)⟩
        exact fun d hd => hbefore d (List.mem_cons_of_mem _ hd)

/-- A traversal that fails on the elements that pass a test fails as on the first of them. -/
theorem mapM_eq_error_iff_find? {f : α → Except ε β} {p : α → Bool}
    (h : ∀ a, (∃ e, f a = .error e) ↔ p a = true) {list : List α} {e : ε} :
    list.mapM f = .error e ↔ ∃ a, list.find? p = some a ∧ f a = .error e := by
  have hok : ∀ a, (∃ b, f a = .ok b) ↔ (!p a) = true := by
    intro a
    rw [Bool.not_eq_true', ← Bool.not_eq_true, ← h a]
    cases f a <;> simp
  simp only [mapM_eq_error_iff, hok, List.find?_eq_some_iff_append]
  constructor
  · intro hfails
    obtain ⟨before, a, after, rfl, hbefore, ha⟩ := hfails
    exact ⟨a, ⟨(h a).1 ⟨e, ha⟩, before, after, rfl, hbefore⟩, ha⟩
  · intro hfirst
    obtain ⟨a, ⟨-, before, after, rfl, hbefore⟩, ha⟩ := hfirst
    exact ⟨before, a, after, rfl, hbefore, ha⟩

/-- A traversal fails at once if its first step does. -/
theorem mapM_cons_of_error {f : α → Except ε β} {a : α} {list : List α} {e : ε}
    (h : f a = .error e) : (a :: list).mapM f = .error e :=
  mapM_eq_error_iff.2 ⟨[], a, list, rfl, by simp, h⟩

/-- Traversals whose steps agree come to the same. -/
theorem mapM_eq_mapM_of_forall₂ {γ : Type} {m : Type → Type} [Monad m] [LawfulMonad m]
    {f : α → m γ} {g : β → m γ} {list : List α} {list' : List β}
    (h : List.Forall₂ (fun a b => f a = g b) list list') : list.mapM f = list'.mapM g := by
  induction h with
  | nil => rw [List.mapM_nil, List.mapM_nil]
  | cons hstep _ ih => rw [List.mapM_cons, List.mapM_cons, hstep, ih]

/-- A traversal succeeds exactly if no step fails. -/
theorem exists_mapM_eq_ok_iff {f : α → Except ε β} {list : List α} :
    (∃ results, list.mapM f = .ok results) ↔ ∀ a ∈ list, ∃ b, f a = .ok b := by
  constructor
  · intro h
    obtain ⟨results, hresults⟩ := h
    have hsteps : List.Forall₂ (fun a b => (∃ c, f a = .ok c) ∧ f a = .ok b) list results :=
      (mapM_eq_ok_iff.1 hresults).imp fun a b hstep => ⟨⟨b, hstep⟩, hstep⟩
    exact ((List.forall₂_and_left _ _).1 hsteps).1
  · intro h
    cases hresult : list.mapM f with
    | ok results => exact ⟨results, rfl⟩
    | error e =>
      obtain ⟨before, a, after, rfl, -, ha⟩ := mapM_eq_error_iff.1 hresult
      obtain ⟨b, hb⟩ := h a (List.mem_append_right _ List.mem_cons_self)
      rw [hb] at ha
      exact nomatch ha

end FheSolidity
