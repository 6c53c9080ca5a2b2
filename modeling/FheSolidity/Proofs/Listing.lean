import FheSolidity.Proofs.Generation.Declared
import FheSolidity.Proofs.Json.Value

/-!
# Listings read back

A JSON listing says of each signature all there is to say, and its declaration and what its first
input is besides. `ListedEntry.ofDatum?` takes an entry of a listing for what it says, looking at
the names and not at the declaration, and `listing_lossless` gets every signature back in this way,
whatever stands in its name. A text listing has the same declarations for lines, as long as no name
has a line break.
-/

namespace FheSolidity

open Json Text

/-! ## Reading -/

/-- How many brackets a document may have around each other. -/
def Json.nestingLimit : Nat := 128

/-- The value that a document holds. -/
def Json.readDatum (text : String) : Except Fault Datum :=
  (Reader.datum nestingLimit).document text

/-- What an entry of a listing says. -/
structure ListedEntry where
  /-- The declaration of the signature. -/
  declaration : String
  /-- The signature. -/
  signature : Signature
  /-- What its first input is. -/
  leading : Leading
  deriving DecidableEq

/-- What the first input is, by the word for it. -/
def Leading.ofWord? (word : String) : Option Leading :=
  if word = "none" then some .encrypted
  else if word = "all" then some .plaintext
  else none

/-- The type that a value names. -/
def ValueType.ofDatum? : Datum → Option ValueType
  | .text name => ofName? name
  | _ => none

/-- What a value says if it is an entry of a listing, an object of these five members in their
order. -/
def ListedEntry.ofDatum? : Datum → Option ListedEntry
  | .object [("declaration", .text declaration), ("name", .text name), ("inputs", .array inputs),
      ("return_type", .text result), ("input_plaintext", .text leading)] => do
    let inputs ← inputs.mapM ValueType.ofDatum?
    let result ← ValueType.ofName? result
    let leading ← Leading.ofWord? leading
    return ⟨declaration, ⟨name, inputs, result⟩, leading⟩
  | _ => none

/-! ## Entries -/

namespace Signature

/-- The entry of a signature in a listing. -/
def listedDatum (sig : Signature) : Datum :=
  .object [("declaration", .text sig.declaration), ("name", .text sig.name),
    ("inputs", .array (sig.inputs.map fun t => .text t.name)),
    ("return_type", .text sig.result.name), ("input_plaintext", .text sig.leading.word)]

/-- The entry of a signature is what is written for it. -/
theorem datum_listed (sig : Signature) : sig.listed.datum = sig.listedDatum := by
  have hinputs : Value.itemData (sig.inputs.map fun t => .text t.name) =
      sig.inputs.map fun t => Datum.text t.name := by
    rw [Value.itemData_eq_map, List.map_map]
    rfl
  unfold listedDatum
  rw [← hinputs]
  rfl

/-- The word for what the first input is tells it. -/
theorem ofWord?_word (leading : Leading) : Leading.ofWord? leading.word = some leading := by
  cases leading <;> rfl

/-- The entry of a signature says what the signature is. -/
theorem ofDatum?_listedDatum (sig : Signature) :
    ListedEntry.ofDatum? sig.listedDatum = some ⟨sig.declaration, sig, sig.leading⟩ := by
  have hinputs : (sig.inputs.map fun t => Datum.text t.name).mapM ValueType.ofDatum? =
      some sig.inputs := by
    rw [mapM_eq_some_iff, List.forall₂_map_left_iff, List.forall₂_same]
    exact fun t _ => t.ofName?_name
  unfold listedDatum ListedEntry.ofDatum?
  simp only [hinputs, ValueType.ofName?_name, ofWord?_word]
  rfl

/-- The entry of a signature is not nested deeply. -/
theorem within_listedDatum (sig : Signature) (depth : Nat) :
    sig.listedDatum.Within (depth + 2) := by
  have hinputs : (Datum.array (sig.inputs.map fun t => .text t.name)).Within (depth + 1) := by
    intro item hitem
    obtain ⟨t, -, rfl⟩ := List.mem_map.1 hitem
    cases depth <;> exact trivial
  intro member hmember
  simp only [List.mem_cons, List.not_mem_nil, or_false] at hmember
  rcases hmember with rfl | rfl | rfl | rfl | rfl
  · exact trivial
  · exact trivial
  · exact hinputs
  · exact trivial
  · exact trivial

end Signature

/-! ## Listings -/

/-- What stands in a JSON listing before the last line break holds the entries of the signatures. -/
theorem holds_pretty (sigs : List Signature) :
    Holds (Value.array (sigs.map Signature.listed)).pretty
      (Datum.array (sigs.map Signature.listedDatum)).tokens := by
  have hdatum : (Value.array (sigs.map Signature.listed)).datum =
      .array (sigs.map Signature.listedDatum) := by
    rw [Value.datum, Value.itemData_eq_map, List.map_map]
    exact congrArg _ (List.map_congr_left fun sig _ => sig.datum_listed)
  rw [← hdatum]
  exact Value.holds_write .indented 0 _

/-- A JSON listing is read as the array of the entries of the signatures. -/
theorem readDatum_listing (sigs : List Signature) :
    readDatum (listing .json sigs) = .ok (.array (sigs.map Signature.listedDatum)) := by
  have hspells : (Datum.array (sigs.map Signature.listedDatum)).Spells (listing .json sigs) := by
    have hholds := (holds_pretty sigs).append (holds_gap "\n" (by decide))
    rw [List.append_nil] at hholds
    exact Datum.spells_of_holds hholds
  have hwithin : (Datum.array (sigs.map Signature.listedDatum)).Within nestingLimit := by
    intro entry hentry
    obtain ⟨sig, -, rfl⟩ := List.mem_map.1 hentry
    exact sig.within_listedDatum 125
  exact Reader.document_of_spells (Reader.reads_datum hwithin) hspells

/-- A JSON listing is a document and a line break, and is read as an array with one entry for each
signature. An entry has exactly the five members, and says what the signature is, what its
declaration is and what its first input is. A text listing of signatures with unbroken names has the
same declarations for lines. -/
theorem listing_lossless (sigs : List Signature) :
    ∃ document entries, listing .json sigs = document ++ "\n" ∧
      (Datum.array entries).Spells document ∧
      readDatum (listing .json sigs) = .ok (.array entries) ∧
      List.Forall₂ (fun sig entry =>
        entry = .object [("declaration", .text sig.declaration), ("name", .text sig.name),
          ("inputs", .array (sig.inputs.map fun t => .text t.name)),
          ("return_type", .text sig.result.name), ("input_plaintext", .text sig.leading.word)] ∧
        ListedEntry.ofDatum? entry = some ⟨sig.declaration, sig, sig.leading⟩) sigs entries ∧
      ((∀ sig ∈ sigs, Unbroken sig.name) →
        lines (listing .text sigs).toList = sigs.map fun sig => sig.declaration.toList) := by
  refine ⟨_, _, rfl, Datum.spells_of_holds (holds_pretty sigs), readDatum_listing sigs, ?_,
    lines_listing⟩
  rw [List.forall₂_map_right_iff, List.forall₂_same]
  exact fun sig _ => ⟨rfl, sig.ofDatum?_listedDatum⟩

/-- A name with a quote, a backslash, a tabulator, a control character and letters beyond ASCII is
listed in both formats, and read back. -/
theorem listing_lossless_of_odd_name :
    Unbroken "\"\\\t\x01é𝔸" ∧
    listing .json [⟨"\"\\\t\x01é𝔸", [], .bool⟩] =
      "[\n  \x7b\n    \"declaration\": " ++
        "\"function \\\"\\\\\\t\\u0001é𝔸() internal pure returns (bool);\",\n" ++
        "    \"name\": \"\\\"\\\\\\t\\u0001é𝔸\",\n    \"inputs\": [],\n" ++
        "    \"return_type\": \"bool\",\n    \"input_plaintext\": \"all\"\n  \x7d\n]\n" ∧
    (∃ entries, readDatum (listing .json [⟨"\"\\\t\x01é𝔸", [], .bool⟩]) = .ok (.array entries) ∧
      entries.map ListedEntry.ofDatum? = [some
        ⟨"function \"\\\t\x01é𝔸() internal pure returns (bool);",
          ⟨"\"\\\t\x01é𝔸", [], .bool⟩, .plaintext⟩]) ∧
    lines (listing .text [⟨"\"\\\t\x01é𝔸", [], .bool⟩]).toList =
      ["function \"\\\t\x01é𝔸() internal pure returns (bool);".toList] := by
  have hname : Unbroken "\"\\\t\x01é𝔸" := by decide
  obtain ⟨-, entries, -, -, hread, hentries, hlines⟩ :=
    listing_lossless [⟨"\"\\\t\x01é𝔸", [], .bool⟩]
  refine ⟨hname, by decide +kernel, ⟨entries, hread, ?_⟩, hlines fun sig hsig => ?_⟩
  · cases hentries with
    | cons hentry hnone =>
      cases hnone
      rw [List.map_singleton, hentry.2]
      rfl
  · rw [List.mem_singleton.1 hsig]
    exact hname

end FheSolidity
