import Wardley.Document.Exchange
import Wardley.Proofs.Document.JsonReading
import Wardley.Proofs.Document.Numbers

/-!
# Exchange of maps is lossless

A map whose numbers are numbers, and whose evolution axis has labels, is read back from its
document and from its texts as it is, integers as integers and doubles as doubles.  Texts
have one limit: an integer with too many digits has none, and so has a map with such an
integer.

The JSON text is written and read here.  What YAML does enters as the hypothesis `Keeps`: the facts
about a codec that the texts of a document rely on.

Main definitions:

- `YamlCodec.Keeps`: the codec writes a document and reads it back.
- `Map.Lossless`: a map that its document and its texts keep.

Main results:

- `YamlCodec.standard_keeps`: the standard codec keeps a document if its text is read back.
- `Map.lossless`: such maps are kept, and maps that have been read are of this sort.
- `Map.overlong_json`: a map with an integer of too many digits has no JSON text.
-/

namespace Wardley

/-- The order of keys within a document does not matter to the map that is read. -/
theorem Map.ofDocument_sorted {map : Map} (haxis : map.evolution ≠ []) :
    Map.ofDocument map.document.sorted = .ok map :=
  Map.ofDocument_document .sorting map haxis

/-! ## Codecs that keep documents -/

/-- The facts about a codec of YAML on which the texts of a document rely. -/
structure YamlCodec.Keeps (codec : YamlCodec) (document : Document) : Prop where
  /-- A document is written if all its numbers have texts. -/
  written : document.hasText = true → ∃ text, codec.dump document = .ok text
  /-- What is written is read as the document, with the keys of its mappings sorted. -/
  readBack : ∀ text, codec.dump document = .ok text → codec.load text = .ok document.sorted
  /-- A number without a text is not written. -/
  overlong : ∀ value : Scalar, value.hasText = false →
    codec.dump (.scalar value) = .error .tooManyDigits
  /-- Nothing of a document is written if one of its scalars is not. -/
  whole : ¬document.AllScalars (fun value => codec.dump (.scalar value) ≠ .error .tooManyDigits) →
    codec.dump document = .error .tooManyDigits

namespace YamlCodec

section Keeps

variable {codec : YamlCodec} {document : Document}

/-- A document with a number that has no text is not written. -/
theorem Keeps.not_written (h : codec.Keeps document) (htext : document.hasText = false) :
    codec.dump document = .error .tooManyDigits := by
  refine h.whole fun hwritten => ?_
  have hall : document.AllScalars fun value => value.hasText = true := by
    refine hwritten.imp fun value hvalue => ?_
    by_contra hnot
    exact hvalue (h.overlong value (by simpa using hnot))
  exact Bool.false_ne_true (htext.symm.trans (Document.hasText_iff.2 hall))

/-- A map is read back from its text by a codec that keeps its document. -/
theorem Keeps.readMap_writeMap {map : Map} (h : codec.Keeps map.document)
    (haxis : map.evolution ≠ []) (htext : map.document.hasText = true) :
    ∃ text, codec.writeMap map = .ok text ∧ codec.readMap text = .ok map := by
  obtain ⟨text, hwrite⟩ := h.written htext
  refine ⟨text, hwrite, ?_⟩
  rw [readMap, read, h.readBack text hwrite]
  simp only [Map.ofDocument_sorted haxis]
  rfl

end Keeps

/-- The standard writer fails exactly on a document with a number that has no text. -/
theorem standard_dump (document : Document) :
    standard.dump document = if document.hasText then
      .ok (String.ofList (Yaml.write document.sorted)) else .error .tooManyDigits := rfl

/-- The standard codec keeps a document whose text is read back. -/
theorem standard_keeps {document : Document}
    (hread : document.hasText = true →
      Document.ofYaml (String.ofList (Yaml.write document.sorted)) = .ok document.sorted) :
    standard.Keeps document where
  written htext := ⟨_, if_pos htext⟩
  readBack text hwrite := by
    rw [standard_dump] at hwrite
    split at hwrite
    · cases hwrite
      exact hread ‹_›
    · cases hwrite
  overlong value hvalue := if_neg (by simp [Document.hasText, hvalue])
  whole hnot := by
    refine if_neg fun htext => hnot ((Document.hasText_iff.1 htext).imp fun value hvalue => ?_)
    rw [standard_dump, Document.hasText, if_pos hvalue]
    intro hwrite
    cases hwrite

end YamlCodec

/-! ## Maps that are kept -/

/-- A map that its document and its texts keep, if it has texts. -/
structure Map.Lossless (map : Map) : Prop where
  /-- The document of the map is read as the map. -/
  document : Map.ofDocument map.document = .ok map
  /-- The JSON text of the map is read as the map. -/
  json : map.document.hasText = true → ∃ text, map.json = .ok text ∧ Map.ofJson text = .ok map
  /-- The YAML text of the map is read as the map. -/
  yaml : ∀ codec : YamlCodec, codec.Keeps map.document → map.document.hasText = true →
    ∃ text, codec.writeMap map = .ok text ∧ codec.readMap text = .ok map
  /-- A map with an integer of too many digits has neither text. -/
  tooManyDigits : map.document.hasText = false →
    map.json = .error .tooManyDigits ∧
      ∀ codec : YamlCodec, codec.Keeps map.document → codec.writeMap map = .error .tooManyDigits

/-- A map with an axis, without nan and with numbers that have texts is written as JSON and read
back. -/
theorem Map.ofJson_json {map : Map} (haxis : map.evolution ≠ [])
    (hnumbers : map.document.AllScalars Scalar.NotNaN) (htext : map.document.hasText = true) :
    ∃ text, map.json = .ok text ∧ Map.ofJson text = .ok map := by
  obtain ⟨text, hwrite, hread⟩ := Document.ofJson_json map.keyed_document
    map.notTimestamp_document hnumbers htext
  refine ⟨text, hwrite, ?_⟩
  rw [Map.ofJson, readJson, hread]
  simp only [Map.ofDocument_sorted haxis]
  rfl

/-- A map with a number that has no text is not written as JSON. -/
theorem Map.json_of_not_hasText {map : Map} (htext : map.document.hasText = false) :
    map.json = .error .tooManyDigits := by
  have hnot : ¬map.document.hasText = true := by simp [htext]
  rw [Map.json, Document.json_eq map.keyed_document map.notTimestamp_document, if_neg hnot]

/-! ## Two maps -/

/-- A map with one element, whose visibility is below all others. -/
def Map.bottom : Map :=
  { components := [{ name := "Tea", maturity := 1, visibility := .float (.infinity true) }] }

/-- The document of that map as YAML lists it, its keys in order. -/
def Map.bottomSorted : Document :=
  .object [
    ("accelerators", .list []), ("anchors", .list []), ("annotations", .list []),
    ("attitudes", .list []),
    ("components", .list [.object [
      ("decorators", .null), ("evolve_maturity", .null), ("evolving", .bool false),
      ("inertia", .bool false), ("kind", .text "component"),
      ("label", .object [("x", .int 5), ("y", .int (-10))]), ("line", .null),
      ("maturity", .int 1), ("name", .text "Tea"), ("pipeline", .bool false),
      ("pseudo", .bool false), ("url", .null), ("visibility", .number (.float (.infinity true)))]]),
    ("ecosystems", .list []), ("errors", .list []),
    ("evolution", .list [
      .object [("line1", .text "Genesis"), ("line2", .text "")],
      .object [("line1", .text "Custom-Built"), ("line2", .text "")],
      .object [("line1", .text "Product"), ("line2", .text "(+rental)")],
      .object [("line1", .text "Commodity"), ("line2", .text "(+utility)")]]),
    ("evolved", .list []), ("links", .list []), ("markets", .list []), ("methods", .list []),
    ("notes", .list []), ("pipelines", .list []),
    ("presentation", .object [
      ("annotations", .object [("maturity", .int 0), ("visibility", .int 0)]),
      ("size", .object [("height", .int 0), ("width", .int 0)]), ("style", .text "")]),
    ("submaps", .list []), ("title", .text "Untitled Map"), ("urls", .list [])]

/-- The sorted document of the map, written out. -/
theorem Map.bottom_document_sorted : Map.bottom.document.sorted = Map.bottomSorted := by
  -- sorting is by recursion on lengths: its equations sort the keys, not the kernel
  simp only [bottom, Map.document, Element.document, Presentation.document, AxisLabel.document,
    AxisLabel.standard, Label.document, Label.standard, Document.object, Document.optional,
    Document.text, Document.number, Document.bool, Document.null, Document.sorted,
    Document.sortedItems, Document.sortedValues, Document.sortEntries, Document.keys,
    Scalar.areOrdered, Scalar.precedes, Scalar.below?, List.map_cons, List.map_nil, List.all_cons,
    List.all_nil, List.mergeSort, List.mergeSort_singleton, List.length_cons, List.length_nil,
    List.MergeSort.Internal.splitInTwo_fst, List.MergeSort.Internal.splitInTwo_snd,
    List.take_succ_cons, List.take_zero, List.drop_succ_cons, List.drop_zero, List.nil_merge,
    List.merge_right, List.cons_merge_cons_pos, List.cons_merge_cons_neg, String.reduceLT,
    Nat.reduceAdd, Nat.reduceDiv, decide_true, decide_false, Option.isSome_some,
    Option.getD_some, Bool.and_self, Bool.not_true, Bool.not_false, Bool.false_eq_true,
    not_false_eq_true, ↓reduceIte]
  rfl

/-- The standard codec keeps the document of that map. -/
theorem Map.bottom_keeps : YamlCodec.standard.Keeps Map.bottom.document := by
  refine YamlCodec.standard_keeps fun _ => ?_
  -- the text is built from characters: the kernel would take a minute to decode it
  rw [Map.bottom_document_sorted, Document.ofYaml, String.toList_ofList]
  decide +kernel

/-- A map with one annotation of a number. -/
def Map.numbered (value : Int) : Map := { annotations := [⟨.int value, "", [], none⟩] }

/-- The map of one numbered annotation holds no nan. -/
theorem Map.notNaN_numbered (value : Int) :
    (Map.numbered value).document.AllScalars Scalar.NotNaN := by
  simp [Map.numbered, Map.document, Presentation.document, Annotation.document,
    Document.optional, Document.null, Document.number, Scalar.NotNaN]

/-- A map with the smallest integer that has no text. -/
def Map.overlong : Map := Map.numbered (Nat.pow 10 Number.digitLimit : Nat)

/-- The number of the long annotation has no text. -/
theorem Map.overlong_hasText : Map.overlong.document.hasText = false := by
  decide +kernel

/-- It keeps the document of a map that is not written. -/
theorem Map.overlong_keeps : YamlCodec.standard.Keeps Map.overlong.document :=
  YamlCodec.standard_keeps fun htext =>
    (Bool.false_ne_true (Map.overlong_hasText.symm.trans htext)).elim

/-! ## Exchange -/

/--
A map with an evolution axis and without missing numbers is kept by its document and its texts,
and a map that is read from a document without missing numbers is such a map.
-/
theorem Map.lossless (map : Map) :
    (map.evolution ≠ [] → map.document.AllScalars Scalar.NotNaN → map.Lossless) ∧
      ∀ document : Document, document.AllScalars Scalar.NotNaN →
        Map.ofDocument document = .ok map →
        map.evolution ≠ [] ∧ map.document.AllScalars Scalar.NotNaN ∧ map.Lossless := by
  have hkept (haxis : map.evolution ≠ []) (hnumbers : map.document.AllScalars Scalar.NotNaN) :
      map.Lossless :=
    ⟨Map.ofDocument_document .unchanged map haxis, Map.ofJson_json haxis hnumbers,
      fun _ hcodec => hcodec.readMap_writeMap haxis,
      fun htext => ⟨Map.json_of_not_hasText htext, fun _ hcodec => hcodec.not_written htext⟩⟩
  refine ⟨hkept, fun document hnumbers hread => ?_⟩
  have haxis := Map.evolution_ofDocument hread
  have hmap := Map.notNaN_ofDocument hnumbers hread
  exact ⟨haxis, hmap, hkept haxis hmap⟩

/-- A map whose element has a visibility below all others is kept by its document and its texts,
and one with an integer of too many digits by its document alone. -/
theorem Map.lossless_bottom :
    Map.bottom.evolution ≠ [] ∧ Map.bottom.document.AllScalars Scalar.NotNaN ∧
      Map.bottom.document.hasText = true ∧ Map.bottom.Lossless ∧
      Map.ofDocument Map.bottom.document = .ok Map.bottom ∧
      (∃ text, YamlCodec.standard.writeMap Map.bottom = .ok text ∧
        YamlCodec.standard.readMap text = .ok Map.bottom) ∧
      Map.ofDocument Map.overlong.document = .ok Map.overlong ∧
      YamlCodec.standard.writeMap Map.overlong = .error .tooManyDigits := by
  have haxis : Map.bottom.evolution ≠ [] := List.cons_ne_nil _ _
  have hnumbers : Map.bottom.document.AllScalars Scalar.NotNaN := by
    simp [Map.bottom, Map.document, Presentation.document, Element.document, Label.document,
      Label.standard, Document.optional, Document.null, Document.number, Scalar.NotNaN,
      Double.infinity]
  have htext : Map.bottom.document.hasText = true := by decide +kernel
  have hkept := (Map.lossless Map.bottom).1 haxis hnumbers
  have hread := (Map.lossless Map.bottom).2 Map.bottom.document hnumbers hkept.document
  have hyaml := hread.2.2.yaml YamlCodec.standard Map.bottom_keeps htext
  have hlong := (Map.lossless Map.overlong).1 (List.cons_ne_nil _ _) (Map.notNaN_numbered _)
  exact ⟨haxis, hnumbers, htext, hread.2.2, hkept.document, hyaml, hlong.document,
    (hlong.tooManyDigits Map.overlong_hasText).2 YamlCodec.standard Map.overlong_keeps⟩

/-- A map without missing numbers may have no JSON text to be read back. -/
theorem Map.overlong_json :
    Map.overlong.evolution ≠ [] ∧ Map.overlong.document.AllScalars Scalar.NotNaN ∧
      ¬∃ text, Map.overlong.json = .ok text ∧ Map.ofJson text = .ok Map.overlong := by
  have haxis : Map.overlong.evolution ≠ [] := List.cons_ne_nil _ _
  refine ⟨haxis, Map.notNaN_numbered _, ?_⟩
  rintro ⟨text, hwrite, -⟩
  rw [Map.json_of_not_hasText Map.overlong_hasText] at hwrite
  cases hwrite

end Wardley
