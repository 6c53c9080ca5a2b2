import FheSolidity.Listing
import FheSolidity.Proofs.Generation.Verdict

/-!
# What a generated library declares

A library and a listing are made from the same operations by two functions that share nothing but
the expansion and the head of a function. The library writes a head before each body, and the
listing writes it before a semicolon, so one can be read off the other line by line. Names have to
be free of line breaks for that: a name with one could imitate a head or the title that ends the
functions.
-/

namespace FheSolidity

open Text

/-- An overload of operations with unbroken names has an unbroken name. -/
theorem unbroken_name_of_mem_expandAll {ops : List Operation} {sigs : List Signature}
    (hnames : ∀ op ∈ ops, Unbroken op.name) (h : expandAll ops = .ok sigs) :
    ∀ sig ∈ sigs, Unbroken sig.name := by
  intro sig hsig
  obtain ⟨op, hop, family, hfamily, hmem⟩ := exists_of_mem_expandAll h hsig
  obtain ⟨hname, -, -⟩ := Operation.mem_expandIn hfamily sig hmem
  rw [hname]
  exact hnames op hop

/-- A listing of signatures with unbroken names has their declarations for lines. -/
theorem lines_listing {sigs : List Signature} (h : ∀ sig ∈ sigs, Unbroken sig.name) :
    lines (listing .text sigs).toList = sigs.map fun sig => sig.declaration.toList := by
  show lines (String.join (sigs.map fun sig => sig.declaration ++ "\n")).toList = _
  induction sigs with
  | nil => rfl
  | cons sig sigs ih =>
    have hdeclaration : Unbroken sig.declaration := by
      unfold Signature.declaration
      rw [unbroken_append]
      exact ⟨Signature.unbroken_header (h sig List.mem_cons_self), by decide⟩
    have hrest := ih fun sig' hsig' => h sig' (List.mem_cons_of_mem _ hsig')
    rw [List.map_cons, String.join_cons, String.toList_append, String.toList_append,
      List.append_assoc, List.map_cons, ← hrest]
    exact lines_append_newline hdeclaration _

/-- The heads of functions that a generated library has before the title of the conversions are the
lines of the listing, in their order, and there are as many as generation counts. -/
theorem generated_heads {ops : List Operation} (hnames : ∀ op ∈ ops, Unbroken op.name)
    {a : Artifacts} (h : (generate ops).outcome = .ok a) :
    ∃ text front back, listOperations .text ops = .ok text ∧
      Preamble.code.render.toList <+: a.library.toList ∧
      lines a.library.toList =
        lines Preamble.code.render.toList ++ front ++ castTitleLine :: back ∧
      castTitleLine ∉ front ∧
      (∀ line ∈ front.filter Signature.isHead, " \x7b".toList <:+ line) ∧
      (front.filter Signature.isHead).map Signature.declarationOfHead = lines text.toList ∧
      (front.filter Signature.isHead).length = a.signatureCount ∧
      (expandAll ops >>= libraryText) = .ok a.library := by
  obtain ⟨sigs, library, hsigs, hlibrary, -, rfl⟩ := outcome_generate_eq_ok_iff.1 h
  have hunbroken := unbroken_name_of_mem_expandAll hnames hsigs
  obtain ⟨hpreamble, front, back, hlines, hfront, hheads⟩ :=
    exists_lines_libraryText hlibrary hunbroken
  have hlisting : listOperations .text ops = .ok (listing .text sigs) :=
    bind_eq_ok_iff.2 ⟨sigs, hsigs, rfl⟩
  refine ⟨_, front, back, hlisting, hpreamble, hlines, hfront, ?_, ?_, ?_, ?_⟩
  · rw [hheads]
    intro line hline
    obtain ⟨sig, -, rfl⟩ := List.mem_map.1 hline
    exact List.suffix_append _ _
  · rw [hheads, lines_listing hunbroken, List.map_map]
    exact List.map_congr_left fun sig _ => sig.declarationOfHead_headLine
  · rw [hheads, List.length_map]
  · exact bind_eq_ok_iff.2 ⟨sigs, hsigs, hlibrary⟩

/-- The library for the negation of encrypted truth values declares that one function. -/
theorem generated_heads_of_negation :
    Unbroken "not" ∧ ∃ a front back,
      (generate [⟨"not", [.exactly .ebool], .promoted, true, false⟩]).outcome = .ok a ∧
      lines a.library.toList =
        lines Preamble.code.render.toList ++ front ++ castTitleLine :: back ∧
      (front.filter Signature.isHead).map Signature.declarationOfHead =
        ["function not(ebool input0) internal pure returns (ebool);".toList] := by
  have hname : Unbroken "not" := by decide
  refine ⟨hname, ?_⟩
  have hlisting : listOperations .text [⟨"not", [.exactly .ebool], .promoted, true, false⟩] =
      .ok "function not(ebool input0) internal pure returns (ebool);\n" := by
    decide +kernel
  cases houtcome : (generate [⟨"not", [.exactly .ebool], .promoted, true, false⟩]).outcome with
  | error e =>
    rcases outcome_generate_eq_error_iff.1 houtcome with h | ⟨-, h | ⟨-, key, hkey, rfl⟩⟩
    · exact nomatch h
    · exact nomatch h
    · exact absurd (by decide +kernel) (exists_firstRepeat_iff.1 ⟨key, hkey⟩)
  | ok a =>
    obtain ⟨text, front, back, htext, -, hlines, -, -, hheads, -, -⟩ :=
      generated_heads (by intro op hop; rw [List.mem_singleton.1 hop]; exact hname) houtcome
    rw [hlisting, Except.ok.injEq] at htext
    refine ⟨a, front, back, rfl, hlines, ?_⟩
    rw [hheads, ← htext]
    decide +kernel

end FheSolidity
