import Mathlib
import FheSolidity.Command.Options
import FheSolidity.Proofs.Traversal

/-!
# Spellings of options

A choice of one option can be spelled in several ways, and `Choice.Spelled` lists them. Reading the
arguments comes to taking the choices one by one (`takeAll_flatten`): a value that follows its
option is looked at only when the next option comes, but by then nothing else has changed. What has
been taken depends on how often each option was chosen, and not on the order (`Extends`), so that
arguments that spell each option of a selection once give the selection, and arguments that repeat
an option give none (`read_of_spelled`).
-/

namespace FheSolidity

/-! ## Choices -/

/-- The long name of a setting. -/
def Setting.name : Setting → String
  | metadata => "metadata"
  | library => "library"
  | contractsDirectory => "contracts-dir"
  | abi => "abi"
  | format => "format"

/-- An option as it is chosen. -/
inductive Choice
  /-- A setting with its value. -/
  | setting (s : Setting) (value : String)
  /-- To list the overloads. -/
  | list
  /-- To report only. -/
  | dryRun
  /-- To ask for more log lines, some number of times. -/
  | verbose (n : Nat)
  deriving DecidableEq

namespace Choice

/-- The value that a choice gives to a setting. -/
def valueFor? (s : Setting) : Choice → Option String
  | setting s' value => if s' = s then some value else none
  | _ => none

/-- How often a choice asks for more log lines. -/
def letters : Choice → Nat
  | verbose n => n
  | _ => 0

/-- The arguments that spell a choice. -/
inductive Spelled : Choice → List String → Prop
  /-- A value is attached to the name of its setting. -/
  | attached (s : Setting) (value : String) :
    Spelled (setting s value) ["--" ++ s.name ++ "=" ++ value]
  /-- A value that does not start with a hyphen follows the name of its setting. -/
  | apart (s : Setting) {value : String} (h : value.toList.head? ≠ some '-') :
    Spelled (setting s value) ["--" ++ s.name, value]
  /-- A value that does not start with a hyphen follows the letter for the metadata. -/
  | letter {value : String} (h : value.toList.head? ≠ some '-') :
    Spelled (setting .metadata value) ["-m", value]
  | list : Spelled list ["--list"]
  | dryRun : Spelled dryRun ["--dry-run"]
  /-- A hyphen stands before as many letters as log lines are asked for. -/
  | verbose {n : Nat} (h : 0 < n) :
    Spelled (verbose n) [String.ofList ('-' :: List.replicate n 'v')]

end Choice

/-! ## Arguments -/

namespace Argument

/-- Two hyphens before a text that is not empty start a long option. -/
theorem ofString_of_toList {text : String} {c : Char} {rest : List Char}
    (h : text.toList = '-' :: '-' :: c :: rest) : ofString text = ofLong (c :: rest) := by
  unfold ofString
  rw [h]
  rfl

/-- A long option has the value behind the first equals sign. -/
theorem ofLong_name_value {name : String} (h : '=' ∉ name.toList) (value : String) :
    ofLong (name.toList ++ '=' :: value.toList) = .long name (some value) := by
  have hall : ∀ c ∈ name.toList, (c != '=') = true := fun c hc =>
    bne_iff_ne.2 fun heq => h (heq ▸ hc)
  unfold ofLong
  rw [List.takeWhile_append_of_pos hall, List.dropWhile_append_of_pos hall]
  simp

/-- What does not start with a hyphen is no option. -/
theorem ofString_plain {text : String} (h : text.toList.head? ≠ some '-') :
    ofString text = .plain text := by
  unfold ofString
  split
  · next heq => exact absurd (by rw [heq]; rfl) h
  · next heq => exact absurd (by rw [heq]; rfl) h
  · next heq => exact absurd (by rw [heq]; rfl) h
  · rfl

/-- The name of a setting behind two hyphens is a long option. -/
theorem ofString_name (s : Setting) : ofString ("--" ++ s.name) = .long s.name none := by
  cases s <;> rfl

/-- A value behind the name of a setting and an equals sign is attached to it. -/
theorem ofString_name_value (s : Setting) (value : String) :
    ofString ("--" ++ s.name ++ "=" ++ value) = .long s.name (some value) := by
  have hname : '=' ∉ s.name.toList := by cases s <;> decide
  obtain ⟨c, rest, hcons⟩ : ∃ c rest, s.name.toList = c :: rest := by
    cases s <;> exact ⟨_, _, rfl⟩
  rw [← ofLong_name_value hname, hcons, List.cons_append]
  apply ofString_of_toList
  simp [hcons]

end Argument

/-- A setting is found by its name. -/
theorem Switch.ofName?_name (s : Setting) : ofName? s.name = some (.setting s) := by
  cases s <;> rfl

/-! ## Taking choices -/

namespace OptionsDraft

/-- Takes a choice when nothing is pending. -/
def choose (d : OptionsDraft) : Choice → Except UsageStop OptionsDraft
  | .setting s value => d.assign s value
  | .list => d.raise .list
  | .dryRun => d.raise .dryRun
  | .verbose n => .ok { d with verbosity := min 255 (d.verbosity + n) }

/-- A setting is given its value if it has none yet and admits the value. -/
theorem assign_eq_ok_iff {d d' : OptionsDraft} {s : Setting} {value : String} :
    d.assign s value = .ok d' ↔ d.settings.lookup s = none ∧ s.admits value = true ∧
      d' = { d with settings := (s, value) :: d.settings } := by
  unfold assign
  split_ifs with hgiven hadmits
  · have hsome := Option.ne_none_iff_isSome.2 hgiven
    simp [hsome]
  · have hnone := Option.not_isSome_iff_eq_none.1 hgiven
    simp [hnone, hadmits, eq_comm]
  · simp [hadmits]

/-- Listing is asked for if it has not been asked for yet. -/
theorem choose_list_eq_ok_iff {d d' : OptionsDraft} :
    d.choose .list = .ok d' ↔ d.list = false ∧ d' = { d with list := true } := by
  show (if d.list then _ else _) = _ ↔ _
  split_ifs with hlist
  · simp [hlist]
  · simp [hlist, eq_comm]

/-- A dry run is asked for if it has not been asked for yet. -/
theorem choose_dryRun_eq_ok_iff {d d' : OptionsDraft} :
    d.choose .dryRun = .ok d' ↔ d.dryRun = false ∧ d' = { d with dryRun := true } := by
  show (if d.dryRun then _ else _) = _ ↔ _
  split_ifs with hdryRun
  · simp [hdryRun]
  · simp [hdryRun, eq_comm]

/-- Taking a choice leaves what is pending. -/
theorem pending_of_choose {d d' : OptionsDraft} {choice : Choice} (h : d.choose choice = .ok d') :
    d'.pending = d.pending := by
  cases choice with
  | setting s value =>
    obtain ⟨-, -, rfl⟩ := assign_eq_ok_iff.1 h
    rfl
  | list =>
    obtain ⟨-, rfl⟩ := choose_list_eq_ok_iff.1 h
    rfl
  | dryRun =>
    obtain ⟨-, rfl⟩ := choose_dryRun_eq_ok_iff.1 h
    rfl
  | verbose n =>
    obtain rfl := Except.ok.inj h
    rfl

/-! ## Arguments as choices -/

/-- Without a pending value, nothing has to be looked at. -/
theorem settle_of_pending {d : OptionsDraft} (h : d.pending = none) : d.settle = .ok d := by
  unfold settle
  rw [h]

/-- Once the pending value has been looked at, nothing is pending. -/
theorem pending_of_settle {d d' : OptionsDraft} (h : d.settle = .ok d') : d'.pending = none := by
  unfold settle at h
  split at h
  · next hnone => exact Except.ok.inj h ▸ hnone
  · exact nomatch h
  · exact @pending_of_choose _ _ (.setting _ _) h

/-- Looking at a value that is pending gives it to its setting. -/
theorem settle_pending {d : OptionsDraft} (h : d.pending = none) (s : Setting) (value : String) :
    settle { d with pending := some (s, some value) } = d.choose (.setting s value) := by
  show assign { d with pending := none } s value = d.assign s value
  rw [← h]

/-- A choice that has been taken leaves nothing to be looked at. -/
theorem choose_bind_settle (d : OptionsDraft) (choice : Choice) :
    ((d.settle >>= fun d => d.choose choice) >>= settle) =
      d.settle >>= fun d => d.choose choice := by
  cases hsettle : d.settle with
  | error stop => rfl
  | ok d' =>
    show (d'.choose choice >>= settle) = d'.choose choice
    cases hchoose : d'.choose choice with
    | error stop => rfl
    | ok d'' =>
      apply settle_of_pending
      rw [pending_of_choose hchoose, pending_of_settle hsettle]

/-- Letters that ask for more log lines are counted together. -/
theorem takeLetters_replicate (d : OptionsDraft) (n : Nat) :
    d.takeLetters (List.replicate (n + 1) 'v') =
      d.settle >>= fun d => d.choose (.verbose (n + 1)) := by
  induction n generalizing d with
  | zero =>
    show (d.settle >>= fun d => d.choose (.verbose 1)) >>= pure = _
    rw [bind_pure]
  | succ n ih =>
    have hfirst : d.takeLetters (List.replicate (n + 1 + 1) 'v') =
        (d.settle >>= fun d => d.choose (.verbose 1)) >>= fun d =>
          d.takeLetters (List.replicate (n + 1) 'v') := rfl
    rw [hfirst]
    cases hsettle : d.settle with
    | error stop => rfl
    | ok d' =>
      -- The count stops at 255 after the first letter, and again after the others.
      have hsum : min 255 (min 255 (d'.verbosity + 1) + (n + 1)) =
          min 255 (d'.verbosity + (n + 1 + 1)) := by omega
      have hnone : d'.pending = none := pending_of_settle hsettle
      have hpending : { d' with verbosity := min 255 (d'.verbosity + 1) }.pending = none := hnone
      show takeLetters { d' with verbosity := min 255 (d'.verbosity + 1) } _ = _
      rw [ih, settle_of_pending hpending]
      show Except.ok { d' with verbosity := min 255 (min 255 (d'.verbosity + 1) + (n + 1)) } = _
      rw [hsum]
      rfl

/-- A value behind the option of its setting is given to the setting as soon as it is looked at. -/
theorem exists_next_of_apart {d : OptionsDraft} {s : Setting} {option value : String}
    (hoption : ∀ rest, d.takeAll (option :: rest) =
      d.take (.setting s) none >>= fun d => d.takeAll rest)
    (hvalue : value.toList.head? ≠ some '-') :
    ∃ next, next >>= settle = (d.settle >>= fun d => d.choose (.setting s value)) ∧
      ∀ rest, d.takeAll ([option, value] ++ rest) = next >>= fun d => d.takeAll rest := by
  refine ⟨d.settle >>= fun d => .ok { d with pending := some (s, some value) }, ?_, fun rest => ?_⟩
  · cases hsettle : d.settle with
    | error stop => rfl
    | ok d' => exact settle_pending (pending_of_settle hsettle) s value
  · rw [List.cons_append, List.singleton_append, hoption]
    unfold take
    cases d.settle with
    | error stop => rfl
    | ok d' =>
      show takeAll { d' with pending := some (s, none) } (value :: rest) = _
      rw [takeAll, Argument.ofString_plain hvalue]
      rfl

/-- The arguments that spell a choice come to looking at what is pending and taking the choice, as
soon as what they leave pending is looked at. -/
theorem takeAll_part {choice : Choice} {part : List String} (h : choice.Spelled part)
    (d : OptionsDraft) :
    ∃ next, next >>= settle = (d.settle >>= fun d => d.choose choice) ∧
      ∀ rest, d.takeAll (part ++ rest) = next >>= fun d => d.takeAll rest := by
  cases h with
  | attached s value =>
    refine ⟨_, d.choose_bind_settle (.setting s value), fun rest => ?_⟩
    rw [List.singleton_append, takeAll, Argument.ofString_name_value]
    unfold takeLong
    simp only [Switch.ofName?_name]
    rfl
  | @apart s _ hvalue =>
    refine exists_next_of_apart (fun rest => ?_) hvalue
    rw [takeAll, Argument.ofString_name]
    unfold takeLong
    simp only [Switch.ofName?_name]
  | letter hvalue => exact exists_next_of_apart (fun _ => rfl) hvalue
  | list => exact ⟨_, d.choose_bind_settle .list, fun _ => rfl⟩
  | dryRun => exact ⟨_, d.choose_bind_settle .dryRun, fun _ => rfl⟩
  | @verbose n hn =>
    obtain ⟨n, rfl⟩ := Nat.exists_eq_add_one.2 hn
    refine ⟨_, d.choose_bind_settle (.verbose (n + 1)), fun rest => ?_⟩
    have hshort : Argument.ofString (String.ofList ('-' :: List.replicate (n + 1) 'v')) =
        .short (List.replicate (n + 1) 'v') := by
      unfold Argument.ofString
      rw [String.toList_ofList]
      rfl
    rw [List.singleton_append, takeAll, hshort, ← takeLetters_replicate]

/-- Arguments that spell choices come to taking the choices one by one. -/
theorem takeAll_flatten {choices : List Choice} {parts : List (List String)}
    (h : List.Forall₂ Choice.Spelled choices parts) (d : OptionsDraft) :
    d.takeAll parts.flatten = d.settle >>= fun d => choices.foldlM choose d := by
  induction h generalizing d with
  | nil =>
    show d.settle = d.settle >>= pure
    rw [bind_pure]
  | @cons choice part choices parts hpart _ ih =>
    -- The first part may leave its value pending; reading the others looks at it first.
    obtain ⟨next, hnext, htake⟩ := takeAll_part hpart d
    rw [List.flatten_cons, htake]
    calc (next >>= fun d => d.takeAll parts.flatten)
      _ = next >>= fun d => d.settle >>= fun d => choices.foldlM choose d :=
          congrArg (next >>= ·) (funext ih)
      _ = (next >>= settle) >>= fun d => choices.foldlM choose d := (bind_assoc _ _ _).symm
      _ = (d.settle >>= fun d => d.choose choice) >>= fun d => choices.foldlM choose d := by
          rw [hnext]
      _ = d.settle >>= fun d => (choice :: choices).foldlM choose d := by
          rw [bind_assoc]
          rfl

/-! ## What choices add up to -/

/-- Whether a draft has what another one has and some choices besides. -/
structure Extends (d : OptionsDraft) (choices : List Choice) (d' : OptionsDraft) : Prop where
  /-- A setting has the value it had and those that the choices give it. -/
  settings : ∀ s, (d'.settings.lookup s).toList =
    (d.settings.lookup s).toList ++ choices.filterMap (Choice.valueFor? s)
  /-- Listing has been asked for as often as before and in the choices. -/
  list : d'.list.toNat = d.list.toNat + choices.count .list
  /-- A dry run has been asked for as often as before and in the choices. -/
  dryRun : d'.dryRun.toNat = d.dryRun.toNat + choices.count .dryRun
  /-- More log lines have been asked for as often as before and in the choices, up to 255 times. -/
  verbosity : d.verbosity ≤ 255 →
    d'.verbosity = min 255 (d.verbosity + (choices.map Choice.letters).sum)

/-- What is extended twice is extended by the choices of both times. -/
theorem Extends.trans {d d' d'' : OptionsDraft} {choices choices' : List Choice}
    (h : d.Extends choices d') (h' : d'.Extends choices' d'') :
    d.Extends (choices ++ choices') d'' where
  settings s := by rw [h'.settings, h.settings, List.append_assoc, List.filterMap_append]
  list := by rw [h'.list, h.list, List.count_append, Nat.add_assoc]
  dryRun := by rw [h'.dryRun, h.dryRun, List.count_append, Nat.add_assoc]
  verbosity hd := by
    have hfirst := h.verbosity hd
    rw [h'.verbosity (hfirst ▸ Nat.min_le_left _ _), hfirst, List.map_append, List.sum_append]
    omega

/-- Taking a choice adds it to the draft. -/
theorem extends_of_choose {d d' : OptionsDraft} {choice : Choice} (h : d.choose choice = .ok d') :
    d.Extends [choice] d' := by
  cases choice with
  | setting s value =>
    obtain ⟨hnone, -, rfl⟩ := assign_eq_ok_iff.1 h
    refine ⟨fun s' => ?_, rfl, rfl, fun hd => (Nat.min_eq_right hd).symm⟩
    by_cases hs : s' = s
    · subst hs
      simp [Choice.valueFor?, hnone]
    · simp [List.lookup_cons, beq_eq_false_iff_ne.2 hs, Choice.valueFor?, Ne.symm hs]
  | list =>
    obtain ⟨hfalse, rfl⟩ := choose_list_eq_ok_iff.1 h
    refine ⟨fun s => (List.append_nil _).symm, ?_, rfl, fun hd => (Nat.min_eq_right hd).symm⟩
    rw [hfalse]
    rfl
  | dryRun =>
    obtain ⟨hfalse, rfl⟩ := choose_dryRun_eq_ok_iff.1 h
    refine ⟨fun s => (List.append_nil _).symm, rfl, ?_, fun hd => (Nat.min_eq_right hd).symm⟩
    rw [hfalse]
    rfl
  | verbose n =>
    obtain rfl := Except.ok.inj h
    exact ⟨fun s => (List.append_nil _).symm, rfl, rfl, fun _ => rfl⟩

/-- Taking choices one by one adds them to the draft. -/
theorem extends_of_foldlM {d d' : OptionsDraft} {choices : List Choice}
    (h : choices.foldlM choose d = .ok d') : d.Extends choices d' := by
  induction choices generalizing d with
  | nil =>
    obtain rfl := Except.ok.inj h
    refine ⟨fun s => (List.append_nil _).symm, rfl, rfl, fun hd => ?_⟩
    exact (Nat.min_eq_right hd).symm
  | cons choice choices ih =>
    rw [List.foldlM_cons, bind_eq_ok_iff] at h
    obtain ⟨next, hchoose, hfold⟩ := h
    exact (extends_of_choose hchoose).trans (ih hfold)

/-! ## When choices are taken -/

/-- Whether choices leave every option that a draft has or that they make chosen at most once, with
values that their settings admit. -/
structure Fits (d : OptionsDraft) (choices : List Choice) : Prop where
  /-- Every value is admitted. -/
  admits : ∀ s value, .setting s value ∈ choices → s.admits value = true
  /-- Every setting has at most one value. -/
  settings : ∀ s,
    ((d.settings.lookup s).toList ++ choices.filterMap (Choice.valueFor? s)).length ≤ 1
  /-- Listing is asked for at most once. -/
  list : d.list.toNat + choices.count .list ≤ 1
  /-- A dry run is asked for at most once. -/
  dryRun : d.dryRun.toNat + choices.count .dryRun ≤ 1

/-- The choices after one that has been taken still fit. -/
theorem Fits.of_extends {d d' : OptionsDraft} {choice : Choice} {choices : List Choice}
    (h : d.Fits (choice :: choices)) (hextends : d.Extends [choice] d') : d'.Fits choices where
  admits s value hmem := h.admits s value (List.mem_cons_of_mem _ hmem)
  settings s := by
    rw [hextends.settings, List.append_assoc, ← List.filterMap_append]
    exact h.settings s
  list := by
    rw [hextends.list, Nat.add_assoc, ← List.count_append]
    exact h.list
  dryRun := by
    rw [hextends.dryRun, Nat.add_assoc, ← List.count_append]
    exact h.dryRun

/-- The first of choices that fit is taken. -/
theorem Fits.exists_choose {d : OptionsDraft} {choice : Choice} {choices : List Choice}
    (h : d.Fits (choice :: choices)) : ∃ d', d.choose choice = .ok d' := by
  cases choice with
  | setting s value =>
    have hnone : d.settings.lookup s = none := by
      have hone := h.settings s
      cases hlookup : d.settings.lookup s with
      | none => rfl
      | some given =>
        rw [hlookup] at hone
        simp [Choice.valueFor?] at hone
    exact ⟨_, assign_eq_ok_iff.2 ⟨hnone, h.admits s value List.mem_cons_self, rfl⟩⟩
  | list =>
    have hone := h.list
    rw [List.count_cons_self] at hone
    exact ⟨_, choose_list_eq_ok_iff.2 ⟨Bool.toNat_eq_zero.1 (by omega), rfl⟩⟩
  | dryRun =>
    have hone := h.dryRun
    rw [List.count_cons_self] at hone
    exact ⟨_, choose_dryRun_eq_ok_iff.2 ⟨Bool.toNat_eq_zero.1 (by omega), rfl⟩⟩
  | verbose n => exact ⟨_, rfl⟩

/-- Choices that fit are taken one by one. -/
theorem Fits.exists_foldlM {d : OptionsDraft} {choices : List Choice} (h : d.Fits choices) :
    ∃ d', choices.foldlM choose d = .ok d' := by
  induction choices generalizing d with
  | nil => exact ⟨d, rfl⟩
  | cons choice choices ih =>
    obtain ⟨next, hnext⟩ := h.exists_choose
    obtain ⟨d', hd'⟩ := ih (h.of_extends (extends_of_choose hnext))
    rw [List.foldlM_cons, hnext]
    exact ⟨d', hd'⟩

/-- A choice that is not taken repeats an option or has a value that its setting does not admit. -/
theorem choose_eq_error {d : OptionsDraft} {choice : Choice} {stop : UsageStop}
    (h : d.choose choice = .error stop) :
    stop = .conflict ∨
      stop = .invalidValue ∧ ∃ s value, choice = .setting s value ∧ s.admits value = false := by
  cases choice with
  | setting s value =>
    revert h
    show (if _ then _ else if _ then _ else _) = _ → _
    split_ifs with hgiven hadmits
    · exact fun h => .inl (Except.error.inj h).symm
    · exact nofun
    · exact fun h => .inr ⟨(Except.error.inj h).symm, s, value, rfl, Bool.not_eq_true _ ▸ hadmits⟩
  | list | dryRun =>
    revert h
    show (if _ then _ else _) = _ → _
    split_ifs
    · exact fun h => .inl (Except.error.inj h).symm
    · exact nofun
  | verbose n => exact nomatch h

/-- Choices that are not taken repeat an option or have a value that its setting does not admit. -/
theorem foldlM_choose_eq_error {d : OptionsDraft} {choices : List Choice} {stop : UsageStop}
    (h : choices.foldlM choose d = .error stop) :
    stop = .conflict ∨
      stop = .invalidValue ∧ ∃ s value, .setting s value ∈ choices ∧ s.admits value = false := by
  induction choices generalizing d with
  | nil => exact nomatch h
  | cons choice choices ih =>
    rw [List.foldlM_cons, bind_eq_error_iff] at h
    rcases h with hchoose | ⟨next, -, hfold⟩
    · refine (choose_eq_error hchoose).imp_right fun ⟨hstop, s, value, hchoice, hvalue⟩ => ?_
      exact ⟨hstop, s, value, hchoice ▸ List.mem_cons_self, hvalue⟩
    · refine (ih hfold).imp_right fun ⟨hstop, s, value, hmem, hvalue⟩ => ?_
      exact ⟨hstop, s, value, List.mem_cons_of_mem _ hmem, hvalue⟩

end OptionsDraft

/-! ## Selections -/

/-- What may be asked for: values for some of the settings, at most one of listing and a dry run,
and more log lines any number of times. -/
structure Selection where
  /-- The values of the settings that are chosen. -/
  value? : Setting → Option String
  /-- Whether listing is chosen. -/
  list : Bool
  /-- Whether a dry run is chosen. -/
  dryRun : Bool
  /-- How often more log lines are asked for. -/
  verbosity : Nat
  /-- No value is empty. -/
  nonempty : ∀ s, value? s ≠ some ""
  /-- The format is the word for one. -/
  format : ∀ word, value? .format = some word → word = "text" ∨ word = "json"
  /-- Listing excludes a dry run. -/
  exclusive : (list && dryRun) = false

/-- Whether choices choose every option of a selection once and no others, in any order, and ask for
more log lines as often as the selection altogether. -/
structure Selection.ChosenBy (sel : Selection) (choices : List Choice) : Prop where
  /-- Every chosen setting is given its value once, and the others are given none. -/
  settings : ∀ s, choices.filterMap (Choice.valueFor? s) = (sel.value? s).toList
  /-- Listing is asked for once if it is chosen. -/
  list : choices.count .list = sel.list.toNat
  /-- A dry run is asked for once if it is chosen. -/
  dryRun : choices.count .dryRun = sel.dryRun.toNat
  /-- All groups of letters together have as many as are chosen. -/
  verbosity : (choices.map Choice.letters).sum = sel.verbosity

/-- Whether choices give a setting a value twice, ask twice for listing or for a dry run, or ask for
both. -/
def Choice.Repeat (choices : List Choice) : Prop :=
  (∃ s, 1 < (choices.filterMap (valueFor? s)).length) ∨ 1 < choices.count list ∨
    1 < choices.count dryRun ∨ list ∈ choices ∧ dryRun ∈ choices

/-- Every setting admits the value that a selection has for it. -/
theorem Selection.admits (sel : Selection) {s : Setting} {value : String}
    (h : sel.value? s = some value) : s.admits value = true := by
  have hnonempty : value ≠ "" := fun hempty => sel.nonempty s (hempty ▸ h)
  cases s with
  | format =>
    rcases sel.format value h with rfl | rfl
    · rfl
    · rfl
  | metadata | library | contractsDirectory | abi => exact bne_iff_ne.2 hnonempty

/-- The format of a selection is the text format unless its word is that for JSON. -/
theorem Selection.format_eq (sel : Selection) :
    ((sel.value? .format).bind ListFormat.ofWord?).getD .text =
      if sel.value? .format = some "json" then .json else .text := by
  cases hformat : sel.value? .format with
  | none => rfl
  | some word =>
    rcases sel.format word hformat with rfl | rfl
    · rfl
    · rfl

/-- The choices of a selection fit where nothing has been chosen. -/
theorem Selection.ChosenBy.fits {sel : Selection} {choices : List Choice}
    (h : sel.ChosenBy choices) : OptionsDraft.Fits { } choices where
  admits s value hmem := by
    have hvalue : value ∈ choices.filterMap (Choice.valueFor? s) :=
      List.mem_filterMap.2 ⟨_, hmem, if_pos rfl⟩
    rw [h.settings, Option.mem_toList] at hvalue
    exact sel.admits hvalue
  settings s := by
    rw [h.settings]
    exact Option.length_toList_le
  list := by
    rw [h.list]
    exact (Nat.zero_add _).le.trans (Bool.toNat_le _)
  dryRun := by
    rw [h.dryRun]
    exact (Nat.zero_add _).le.trans (Bool.toNat_le _)

/-- Truth values that count the same are the same. -/
theorem eq_of_toNat_eq : ∀ {a b : Bool}, a.toNat = b.toNat → a = b := by
  decide

namespace Options

/-- Arguments that spell choices are read by taking the choices one by one. -/
theorem read_flatten {choices : List Choice} {parts : List (List String)}
    (h : List.Forall₂ Choice.Spelled choices parts) :
    read parts.flatten = choices.foldlM OptionsDraft.choose { } >>= OptionsDraft.options := by
  unfold read
  rw [OptionsDraft.takeAll_flatten h]
  rfl

/-- Arguments that spell each option of a selection once are read as the selection. -/
theorem read_of_chosenBy {sel : Selection} {choices : List Choice} {parts : List (List String)}
    (hchoices : sel.ChosenBy choices) (h : List.Forall₂ Choice.Spelled choices parts) :
    read parts.flatten = .ok {
      metadata := ((sel.value? .metadata).map Path.mk).getD ⟨"metadata/operations.json"⟩
      library := (sel.value? .library).map Path.mk
      contractsDirectory := (sel.value? .contractsDirectory).map Path.mk
      abi := (sel.value? .abi).map Path.mk
      dryRun := sel.dryRun
      list := sel.list
      format := ((sel.value? .format).bind ListFormat.ofWord?).getD .text
      verbosity := min 255 sel.verbosity } := by
  -- The draft that was read has what the selection has, option by option.
  obtain ⟨d, hd⟩ := hchoices.fits.exists_foldlM
  have hextends := OptionsDraft.extends_of_foldlM hd
  have hsettings : ∀ s, d.settings.lookup s = sel.value? s := by
    intro s
    have hvalues := hextends.settings s
    rw [hchoices.settings] at hvalues
    ext value
    rw [← Option.mem_toList, hvalues]
    exact Option.mem_toList
  have hlist : d.list = sel.list := by
    have hcount := hextends.list
    rw [hchoices.list] at hcount
    exact eq_of_toNat_eq (hcount.trans (Nat.zero_add _))
  have hdryRun : d.dryRun = sel.dryRun := by
    have hcount := hextends.dryRun
    rw [hchoices.dryRun] at hcount
    exact eq_of_toNat_eq (hcount.trans (Nat.zero_add _))
  have hverbosity : d.verbosity = min 255 sel.verbosity := by
    rw [hextends.verbosity (Nat.zero_le _), hchoices.verbosity]
    exact congrArg _ (Nat.zero_add _)
  rw [read_flatten h, hd]
  show d.options = _
  unfold OptionsDraft.options OptionsDraft.path?
  simp only [hsettings, hlist, hdryRun, hverbosity, sel.exclusive]
  rfl

/-- Arguments that spell choices of which some repeat an option are refused for it, unless a value
is refused first. -/
theorem read_of_repeat {choices : List Choice} {parts : List (List String)}
    (hrepeat : Choice.Repeat choices) (h : List.Forall₂ Choice.Spelled choices parts) :
    read parts.flatten = .error .conflict ∨
      read parts.flatten = .error .invalidValue ∧
        ∃ s value, .setting s value ∈ choices ∧ s.admits value = false := by
  rw [read_flatten h]
  cases hfold : choices.foldlM OptionsDraft.choose { } with
  | error stop =>
    rcases OptionsDraft.foldlM_choose_eq_error hfold with rfl | ⟨rfl, hvalue⟩
    · exact .inl rfl
    · exact .inr ⟨rfl, hvalue⟩
  | ok d =>
    left
    have hextends := OptionsDraft.extends_of_foldlM hfold
    -- The draft has each option at most once, so only listing and a dry run can be at odds.
    show d.options = _
    rcases hrepeat with ⟨s, hs⟩ | hlist | hdryRun | ⟨hlist, hdryRun⟩
    · have hvalues := congrArg List.length (hextends.settings s)
      have hone : (d.settings.lookup s).toList.length ≤ 1 := Option.length_toList_le
      rw [List.length_append] at hvalues
      omega
    · have hcount := hextends.list
      have hone := Bool.toNat_le d.list
      omega
    · have hcount := hextends.dryRun
      have hone := Bool.toNat_le d.dryRun
      omega
    · have hboth : (d.list && d.dryRun) = true := by
        have hlistCount := hextends.list
        have hdryRunCount := hextends.dryRun
        have := List.count_pos_iff.2 hlist
        have := List.count_pos_iff.2 hdryRun
        rw [Bool.and_eq_true, ← Bool.toNat_eq_one, ← Bool.toNat_eq_one]
        have := Bool.toNat_le d.list
        have := Bool.toNat_le d.dryRun
        omega
      exact if_pos hboth

/-- Arguments that spell choices, in any order and each in any of its spellings, say no more than
the choices. If these choose each option of a selection once, the paths are as they were given or
the usual ones, the listing and the dry run are as selected, and the count of the letters for more
log lines stops at 255. If they repeat an option, or ask for both a listing and a dry run, the
arguments are refused, unless a value is refused first. -/
theorem read_of_spelled {choices : List Choice} {parts : List (List String)}
    (h : List.Forall₂ Choice.Spelled choices parts) :
    (∀ sel : Selection, sel.ChosenBy choices →
      ∃ o, read parts.flatten = .ok o ∧
        o.metadata = ⟨(sel.value? .metadata).getD "metadata/operations.json"⟩ ∧
        o.layout = {
          library := ⟨(sel.value? .library).getD "FHE.sol"⟩
          contractsDirectory := ⟨(sel.value? .contractsDirectory).getD "solidity/tests/contracts"⟩
          abi := ⟨(sel.value? .abi).getD "solidity/tests/abis.ts"⟩ } ∧
        o.listing? = (if sel.list then
          some (if sel.value? .format = some "json" then .json else .text) else none) ∧
        o.dryRun = sel.dryRun ∧ o.verbosity = min sel.verbosity 255) ∧
    (Choice.Repeat choices → read parts.flatten = .error .conflict ∨
      read parts.flatten = .error .invalidValue ∧
        ∃ s value, .setting s value ∈ choices ∧ s.admits value = false) := by
  refine ⟨fun sel hchoices => ?_, fun hrepeat => read_of_repeat hrepeat h⟩
  have hpath : ∀ s usual,
      ((sel.value? s).map Path.mk).getD ⟨usual⟩ = ⟨(sel.value? s).getD usual⟩ :=
    fun s usual => Option.getD_map Path.mk usual (sel.value? s)
  refine ⟨_, read_of_chosenBy hchoices h, hpath .metadata _, ?_, ?_, rfl, Nat.min_comm _ _⟩
  · rw [← hpath, ← hpath, ← hpath]
    rfl
  · rw [← sel.format_eq]
    rfl

/-- A value that looks like an option, a value with an equals sign and letters in two groups are
read as they are meant, and a listing is refused with a dry run. -/
theorem read_of_odd_spellings :
    (∃ o, read ["-v", "--abi", "a=b.ts", "--metadata=--list", "-vv", "--list", "--format=json"] =
        .ok o ∧
      o.metadata = ⟨"--list"⟩ ∧ o.layout = { abi := ⟨"a=b.ts"⟩ } ∧ o.listing? = some .json ∧
      o.dryRun = false ∧ o.verbosity = 3) ∧
    read ["--dry-run", "-m", "ops.json", "--list"] = .error .conflict := by
  have hselected : List.Forall₂ Choice.Spelled
      [.verbose 1, .setting .abi "a=b.ts", .setting .metadata "--list", .verbose 2, .list,
        .setting .format "json"]
      [["-v"], ["--abi", "a=b.ts"], ["--metadata=--list"], ["-vv"], ["--list"],
        ["--format=json"]] :=
    .cons (.verbose (by decide)) (.cons (.apart .abi (by decide)) (.cons
      (.attached .metadata "--list") (.cons (.verbose (by decide)) (.cons .list (.cons
        (.attached .format "json") .nil)))))
  have hrefused : List.Forall₂ Choice.Spelled
      [.dryRun, .setting .metadata "ops.json", .list]
      [["--dry-run"], ["-m", "ops.json"], ["--list"]] :=
    .cons .dryRun (.cons (.letter (by decide)) (.cons .list .nil))
  have hselection := (read_of_spelled hselected).1 {
    value? := fun
      | .abi => some "a=b.ts"
      | .metadata => some "--list"
      | .format => some "json"
      | _ => none
    list := true
    dryRun := false
    verbosity := 3
    nonempty := by
      intro s
      cases s <;> decide
    format := by
      intro word hword
      exact .inr (Option.some.inj hword).symm
    exclusive := rfl } {
    settings := by
      intro s
      cases s <;> rfl
    list := rfl
    dryRun := rfl
    verbosity := rfl }
  refine ⟨hselection, ?_⟩
  rcases (read_of_spelled hrefused).2 (.inr (.inr (.inr ⟨by decide, by decide⟩))) with
    hconflict | ⟨-, s, value, hmem, hvalue⟩
  · exact hconflict
  · -- The only value is admitted.
    simp only [List.mem_cons, reduceCtorEq, Choice.setting.injEq, List.not_mem_nil, or_false,
      false_or] at hmem
    obtain ⟨rfl, rfl⟩ := hmem
    exact absurd hvalue (by decide)

end Options

end FheSolidity
