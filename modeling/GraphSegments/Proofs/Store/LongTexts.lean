import GraphSegments.Proofs.Search.Cells
import GraphSegments.Proofs.Search.Texts
import GraphSegments.Proofs.Store.Replacement

/-!
Comparisons of long texts. A text that is too long for its column leaves a marker there, and a
search looks at the column alone: a saved object is found by a comparison exactly if what the column
keeps of one of its texts passes the comparison.
-/

namespace GraphSegments
open Results

/-- What the column of a text keeps of it. -/
def Overflow.kept (text : String) : String := if text.length > threshold then marker else text

theorem Encoded.stored_string (text : String) (multi : Bool) :
    (ofValue (.string text) multi).stored = .string (Overflow.kept text) := by
  rw [ofValue, overflow?, Overflow.kept]
  split <;> split <;> simp_all [Overflow.ofText, Value.kind]

theorem Value.storedDatum_string (text : String) :
    (Value.string text).storedDatum = .text (Overflow.kept text) := by
  have stored : (Encoded.ofValue (GraphObject.storedValue (.string text)) false).stored =
      .string (Overflow.kept text) := Encoded.stored_string text false
  rw [storedDatum, stored]
  rfl

namespace GraphObject

/-- The text that a property holds, if it holds one and nothing else. -/
def soleText? : PropertyValue → Option String
  | .single (.string text) => some text
  | _ => none

/-- The texts that an object holds one by one under the current name of a property. There are
several only if it holds the property in several vocabularies. -/
def textsUnder (object : GraphObject) (property : String) : List String :=
  (object.properties.entries.filter fun entry =>
    versionless entry.1 == versionless property).filterMap fun entry => soleText? entry.2

theorem soleText?_eq_some {held : PropertyValue} {text : String} :
    soleText? held = some text ↔ held = .single (.string text) := by
  unfold soleText?
  split <;> simp_all

theorem mem_textsUnder {object : GraphObject} {property text : String} :
    text ∈ object.textsUnder property ↔ object.HoldsAlone property (.string text) := by
  simp [textsUnder, HoldsAlone, List.mem_filterMap, soleText?_eq_some, and_assoc]

/-- The rows under a name that is not structural pass exactly if what is kept of one of its texts
does. -/
theorem exists_passing_text_iff {registry : Registry} {object : GraphObject} {rows : List Row}
    (written : object.toRows registry = .ok rows) {property : String}
    (plain : Vocabulary.isStructural (versionless property) = false) {passes : Datum → Prop}
    (nothing : ¬ passes .null) :
    (∃ row ∈ rows, row.name = versionless property ∧
        passes ((Record.ofRow row).cell (.value .string false))) ↔
      ∃ text ∈ object.textsUnder property, passes (.text (Overflow.kept text)) := by
  rw [exists_passing_row_iff written plain .string nothing]
  constructor
  · intro passed
    obtain ⟨value, holds, textual, passed⟩ := passed
    cases value with
    | string text => exact ⟨text, mem_textsUnder.2 holds, Value.storedDatum_string text ▸ passed⟩
    | _ => exact absurd textual (by simp [Value.kind])
  · intro passed
    obtain ⟨text, holds, passed⟩ := passed
    exact ⟨.string text, mem_textsUnder.1 holds, rfl, Value.storedDatum_string text ▸ passed⟩

end GraphObject

namespace StoreScope

/-- What one of the objects of a batch that have a URI holds as a text under the current name of a
property. -/
def Holds (objects : List GraphObject) (uri property text : String) : Prop :=
  ∃ object ∈ objects, object.uri = uri ∧ text ∈ object.textsUnder property

section Saved

variable {scope : StoreScope} {database next : Database} {segment : Segment}
  {objects : List GraphObject} {pool : List Segment}
  (saved : scope.save database segment objects pool = .ok next) {uri property : String}
  (listed : uri ∈ objects.map (·.uri))
  (plain : Vocabulary.isStructural (versionless property) = false)
include saved listed plain

/-- Of a saved object, the segment has nothing under a name but what is kept of its texts. -/
theorem exists_passing_record_iff : ∃ records, next.recordsOf (scope.table segment) = .ok records ∧
    ∀ {passes : Datum → Prop}, ¬ passes .null →
      ((∃ record ∈ records, record.uri = uri ∧ record.name = versionless property ∧
          passes (record.cell (.value .string false))) ↔
        ∃ text, Holds objects uri property text ∧ passes (.text (Overflow.kept text))) := by
  obtain ⟨rows, written, replaces⟩ :=
    replaces_of_save (List.map_eq_nil_iff.not.1 (List.ne_nil_of_mem listed)) saved
  obtain ⟨old, -, present⟩ := replaces.target
  refine ⟨_, present, fun {passes} nothing => ?_⟩
  have replaced {record : Record} (own : record.uri = uri) :
      record ∉ Record.without (objects.map (·.uri)) old := by
    intro kept
    have absent := (List.mem_filter.1 kept).2
    rw [own, List.contains_iff_mem.2 listed] at absent
    exact absurd absent (by simp)
  constructor
  · intro passed
    obtain ⟨record, held, own, named, passed⟩ := passed
    have fresh := (List.mem_append.1 held).resolve_left (replaced own)
    obtain ⟨row, inside, rfl⟩ := List.mem_map.1 fresh
    obtain ⟨object, among, mine, wrote, inside⟩ := (GraphObject.mem_allToRows written).1 inside
    have same : object.uri = uri := (GraphObject.repeated_of_mem_toRows wrote inside).1.symm.trans own
    obtain ⟨text, holds, passed⟩ := (GraphObject.exists_passing_text_iff wrote plain nothing).1
      ⟨row, inside, named, passed⟩
    exact ⟨text, ⟨object, among, same, holds⟩, passed⟩
  · intro passed
    obtain ⟨text, ⟨object, among, rfl, holds⟩, passed⟩ := passed
    obtain ⟨mine, wrote⟩ := GraphObject.exists_toRows_of_allToRows written among
    obtain ⟨row, inside, named, passed⟩ :=
      (GraphObject.exists_passing_text_iff wrote plain nothing).2 ⟨text, holds, passed⟩
    have fresh := (GraphObject.mem_allToRows written).2 ⟨object, among, mine, wrote, inside⟩
    exact ⟨.ofRow row, List.mem_append_right _ (List.mem_map_of_mem fresh),
      (GraphObject.repeated_of_mem_toRows wrote inside).1, named, passed⟩

variable {search : SegmentScope} (there : search.table = scope.table segment)
  {definition : PropertyDef} (textual : search.IsTextual property definition)
  (single : definition.multiValued = false) (mode : ExecutionMode)
include there textual single

/-- A search by the property answers, and it finds a saved object exactly if what is kept of one of
its texts passes. -/
theorem exists_objectsBy_of_save {comparator : Comparator} {operand : Operand}
    {passes : Datum → Prop} (asks : search.Asks property definition comparator operand passes)
    (nothing : ¬ passes .null) :
    ∃ found, search.objectsBy next mode property comparator operand = .ok found ∧
      (uri ∈ found ↔
        ∃ text, Holds objects uri property text ∧ passes (.text (Overflow.kept text))) := by
  obtain ⟨records, present, passing⟩ := exists_passing_record_iff saved listed plain
  rw [← there] at present
  obtain ⟨found, ran, finds⟩ := textual.exists_objectsBy present mode asks
  refine ⟨found, ran, (finds uri).trans ?_⟩
  rw [single]
  exact passing nothing

/-- A saved object is found by a comparison exactly if what the column keeps of one of its texts
compares as asked: the text itself if it is short enough, and else a marker. -/
theorem texts_compare_as_kept :
    let holds := Holds objects uri property
    (∀ text, ∃ found,
      search.objectsBy next mode property .eq (.single (.string text)) = .ok found ∧
        (uri ∈ found ↔ ∃ own, holds own ∧ Overflow.kept own = text)) ∧
    (∀ text, ∃ found,
      search.objectsBy next mode property .ne (.single (.string text)) = .ok found ∧
        (uri ∈ found ↔ ∃ own, holds own ∧ Overflow.kept own ≠ text)) ∧
    (∀ texts : List String, texts ≠ [] → ∃ found,
      search.objectsBy next mode property .oneOf (.list (texts.map .string)) = .ok found ∧
        (uri ∈ found ↔ ∃ own, holds own ∧ Overflow.kept own ∈ texts)) ∧
    search.objectsBy next mode property .oneOf (.list []) = .error (.query .emptyList) ∧
    (∀ part, ∃ found,
      search.objectsBy next mode property .containsCaseSensitive (.single (.string part)) =
          .ok found ∧
        (uri ∈ found ↔ ∃ own, holds own ∧ part.toList <:+: (Overflow.kept own).toList)) := by
  intro holds
  refine ⟨fun text => ?_, fun text => ?_, fun texts named => ?_, ?_, fun part => ?_⟩
  · simpa using exists_objectsBy_of_save saved listed plain there textual single mode
      (SegmentScope.asks_eq single text) (by simp)
  · simpa using exists_objectsBy_of_save saved listed plain there textual single mode
      (SegmentScope.asks_ne single text) (by simp)
  · simpa using exists_objectsBy_of_save saved listed plain there textual single mode
      (SegmentScope.asks_oneOf single named) (by simp)
  · rw [textual.objectsBy_eq, SegmentScope.fits_single single (by decide) (by decide)]
    rfl
  · simpa [Datum.text?] using exists_objectsBy_of_save saved listed plain there textual single mode
      (SegmentScope.asks_containsCaseSensitive textual.kind part) (by simp [Datum.text?])

end Saved

/-- Where no other segment has to be looked at, an object that can be written is saved. -/
theorem exists_save_alone {scope : StoreScope} {database : Database} {segment : Segment}
    {object : GraphObject} {rows : List Row}
    (there : scope.hasSegment database segment = true)
    (written : object.toRows scope.registry = .ok rows) :
    ∃ next, scope.save database segment [object] [] = .ok next := by
  have made : scope.saveStatements database segment [object] [] =
      .ok (Statement.deleteUris (scope.table segment) [object.uri] ++
        Statement.insertAll (scope.table segment) (rows ++ [])) := by
    rw [saveStatements, requireTable, if_pos there, ok_bind, GraphObject.allToRows, written]
    rfl
  obtain ⟨next, ran⟩ := exists_execAll_of_saveStatements made
  exact ⟨next, by rw [save, made, ok_bind, ran]⟩

/-- A node can be saved with any text. -/
theorem exists_save_note (text : String) :
    let registry := Registry.core.addProperty ⟨"urn:p", .string, false, none, Vocabulary.coreDomain⟩
    let scope : StoreScope := ⟨registry, (Configuration.standard "segments.sqlite").searchSettings⟩
    let segment : Segment := ⟨"s", "urn:s"⟩
    let object := (GraphObject.ofClass "urn:a" Vocabulary.nodeClass).set "urn:p"
      (.single (.string text))
    (∃ next, scope.save (Database.ofTable (scope.table segment) []) segment [object] [] =
      .ok next) ∧ ∀ own, Holds [object] "urn:a" "urn:p" own ↔ own = text := by
  intro registry scope segment object
  have there : scope.hasSegment (Database.ofTable (scope.table segment) []) segment = true := by
    decide +kernel
  -- Neither whether the node may be written nor with which ontology depends on the text.
  let blank := GraphObject.ofClass "urn:a" Vocabulary.nodeClass
  have valid : blank.validate = .ok () := eq_ok_of_toOption (by decide +kernel)
  have described : blank.ontology? registry =
      some ⟨Vocabulary.coreDomain, Registry.coreVersion, none, []⟩ := by decide +kernel
  have written : object.toRows scope.registry = .ok _ :=
    GraphObject.toRows_eq_ok.2 ⟨valid, _, described, rfl⟩
  have texts : object.textsUnder "urn:p" = [text] := by
    have entries : object.properties.entries = [("urn:p", .single (.string text))] := rfl
    simp [GraphObject.textsUnder, entries, GraphObject.soleText?]
  refine ⟨exists_save_alone there written, fun own => ?_⟩
  have uri : object.uri = "urn:a" := rfl
  simp only [Holds, List.mem_singleton, exists_eq_left, uri, true_and, texts]

/-- A text of as many characters as a column holds is found by itself, and by its own parts. -/
theorem texts_compare_as_kept_longest :
    let registry := Registry.core.addProperty ⟨"urn:p", .string, false, none, Vocabulary.coreDomain⟩
    let scope : StoreScope := ⟨registry, (Configuration.standard "segments.sqlite").searchSettings⟩
    let segment : Segment := ⟨"s", "urn:s"⟩
    let text := String.ofList (List.replicate Overflow.threshold 'a')
    let object := (GraphObject.ofClass "urn:a" Vocabulary.nodeClass).set "urn:p"
      (.single (.string text))
    let search : SegmentScope := ⟨⟨registry, .sqlite⟩, scope.table segment, 0, true, true⟩
    ∃ next, scope.save (Database.ofTable (scope.table segment) []) segment [object] [] = .ok next ∧
      (∃ found, search.objectsBy next .setAlgebra "urn:p" .eq (.single (.string text)) =
        .ok found ∧ "urn:a" ∈ found) ∧
      (∃ found, search.objectsBy next .singleStatement "urn:p" .containsCaseSensitive
        (.single (.string "aa")) = .ok found ∧ "urn:a" ∈ found) := by
  intro registry scope segment text object search
  obtain ⟨⟨next, saved⟩, holds⟩ := exists_save_note text
  have textual : search.IsTextual "urn:p"
      ⟨"urn:p", .string, false, none, Vocabulary.coreDomain⟩ :=
    ⟨by decide, rfl, by decide, .inr (by decide)⟩
  have kept : Overflow.kept text = text := by
    rw [Overflow.kept, if_neg]
    simp [text, String.length_ofList]
  have listed : "urn:a" ∈ [object].map (·.uri) := List.mem_singleton_self _
  have plain : Vocabulary.isStructural (versionless "urn:p") = false := by decide
  obtain ⟨same, -⟩ := texts_compare_as_kept saved listed plain rfl textual rfl .setAlgebra
  obtain ⟨-, -, -, -, within⟩ :=
    texts_compare_as_kept saved listed plain rfl textual rfl .singleStatement
  obtain ⟨found, ran, finds⟩ := same text
  obtain ⟨foundToo, ranToo, findsToo⟩ := within "aa"
  have occurs : "aa".toList <:+: (Overflow.kept text).toList := by
    have long : 2 ≤ Overflow.threshold := by decide
    have chars : text.toList = List.replicate Overflow.threshold 'a' := String.toList_ofList
    rw [kept, chars, List.infix_replicate_iff]
    exact ⟨long, rfl⟩
  exact ⟨next, saved, ⟨found, ran, finds.2 ⟨text, (holds text).2 rfl, kept⟩⟩,
    foundToo, ranToo, findsToo.2 ⟨text, (holds text).2 rfl, occurs⟩⟩

/-- A text of one character more is found neither by itself nor by its parts, but by the marker. Nor
is a text found, however short, under a property that is written from something else, that stands
for another one, or that a fold looks up elsewhere. -/
theorem long_text_is_not_found :
    let withText (name : String) : Registry :=
      Registry.core.addProperty ⟨name, .string, false, none, Vocabulary.coreDomain⟩
    let object (name text : String) : GraphObject :=
      (GraphObject.ofClass "urn:a" Vocabulary.nodeClass).set name (.single (.string text))
    let scope : StoreScope :=
      ⟨withText "urn:p", (Configuration.standard "segments.sqlite").searchSettings⟩
    let segment : Segment := ⟨"s", "urn:s"⟩
    let text := String.ofList (List.replicate (Overflow.threshold + 1) 'a')
    let search : SegmentScope := ⟨⟨withText "urn:p", .sqlite⟩, scope.table segment, 0, false, false⟩
    let short (folding : Bool) (name : String) : Except Error UriSet :=
      let rows := ((object name "a").toRows (withText name)).toOption.getD []
      SegmentScope.objectsBy ⟨⟨withText name, .sqlite⟩, "notes", 0, false, folding⟩
        (Database.ofTable "notes" (rows.map .ofRow)) .setAlgebra name .eq (.single (.string "a"))
    (∃ next, scope.save (Database.ofTable (scope.table segment) []) segment [object "urn:p" text] [] =
        .ok next ∧
      let found := search.objectsBy next .setAlgebra "urn:p"
      (∃ uris, found .eq (.single (.string text)) = .ok uris ∧ "urn:a" ∉ uris) ∧
      (∃ uris, found .ne (.single (.string text)) = .ok uris ∧ "urn:a" ∈ uris) ∧
      (∃ uris, found .oneOf (.list [.string text]) = .ok uris ∧ "urn:a" ∉ uris) ∧
      (∃ uris, found .containsCaseSensitive (.single (.string "aa")) = .ok uris ∧
        "urn:a" ∉ uris) ∧
      ∃ uris, found .eq (.single (.string Overflow.marker)) = .ok uris ∧ "urn:a" ∈ uris) ∧
    short false Vocabulary.hasVersionIri = .ok [] ∧ short false Vocabulary.uriPseudo = .ok [] ∧
      short true Vocabulary.hasChannel = .ok [] := by
  intro withText object scope segment text search short
  obtain ⟨⟨next, saved⟩, holds⟩ := exists_save_note text
  have textual : search.IsTextual "urn:p"
      ⟨"urn:p", .string, false, none, Vocabulary.coreDomain⟩ :=
    ⟨by decide, rfl, by decide, .inl rfl⟩
  have length : text.length = Overflow.threshold + 1 := by simp [text, String.length_ofList]
  have kept : Overflow.kept text = Overflow.marker := by
    rw [Overflow.kept, if_pos (length ▸ Nat.lt_succ_self _)]
  have differ : Overflow.marker ≠ text := by
    intro same
    have small : Overflow.marker.length ≤ Overflow.threshold := by decide
    rw [same, length] at small
    exact absurd small (Nat.not_succ_le_self _)
  have finds {comparator : Comparator} {operand : Operand} {passes : Datum → Prop}
      (asks : search.Asks "urn:p" ⟨"urn:p", .string, false, none, Vocabulary.coreDomain⟩ comparator
        operand passes) (nothing : ¬ passes .null) :
      ∃ uris, search.objectsBy next .setAlgebra "urn:p" comparator operand = .ok uris ∧
        ("urn:a" ∈ uris ↔ passes (.text Overflow.marker)) := by
    have listed : "urn:a" ∈ [object "urn:p" text].map (·.uri) := List.mem_singleton_self _
    obtain ⟨uris, ran, finds⟩ := exists_objectsBy_of_save saved listed (by decide) rfl textual rfl
      .setAlgebra asks nothing
    simp only [holds, exists_eq_left, kept] at finds
    exact ⟨uris, ran, finds⟩
  have others : [(false, Vocabulary.hasVersionIri), (false, Vocabulary.uriPseudo),
      (true, Vocabulary.hasChannel)].map (fun (folding, name) => (short folding name).toOption) =
        [some [], some [], some []] := by decide +kernel
  simp only [List.map_cons, List.map_nil, List.cons.injEq, and_true] at others
  obtain ⟨written, stands, folded⟩ := others
  refine ⟨⟨next, saved, ?_, ?_, ?_, ?_, ?_⟩, eq_ok_of_toOption written, eq_ok_of_toOption stands,
    eq_ok_of_toOption folded⟩
  · obtain ⟨uris, ran, found⟩ := finds (SegmentScope.asks_eq rfl text) (by simp)
    exact ⟨uris, ran, by simp [found, differ]⟩
  · obtain ⟨uris, ran, found⟩ := finds (SegmentScope.asks_ne rfl text) (by simp)
    exact ⟨uris, ran, by simp [found, differ]⟩
  · obtain ⟨uris, ran, found⟩ := finds
      (SegmentScope.asks_oneOf rfl (List.cons_ne_nil text [])) (by simp)
    exact ⟨uris, ran, by simp [found, differ]⟩
  · obtain ⟨uris, ran, found⟩ := finds
      (SegmentScope.asks_containsCaseSensitive rfl "aa") (by simp [Datum.text?])
    have absent : ¬ "aa".toList <:+: Overflow.marker.toList := by decide
    exact ⟨uris, ran, by simpa [found, Datum.text?] using absent⟩
  · obtain ⟨uris, ran, found⟩ := finds (SegmentScope.asks_eq rfl Overflow.marker) (by simp)
    exact ⟨uris, ran, found.2 rfl⟩

end StoreScope

end GraphSegments
