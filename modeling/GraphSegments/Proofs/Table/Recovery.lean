import GraphSegments.Proofs.Table.Cardinality
import GraphSegments.Proofs.Table.Reading
import GraphSegments.Proofs.Text.Versions

/-!
What is recovered from the rows of an object. They read as an object exactly if the properties that
come together agree, the version with which the object was written is accepted, its class is
registered where it is read, and each of its properties reads.
-/

namespace GraphSegments
open Results

/-- A value as rows hold it: in the current vocabulary, a long text apart from its marker. -/
def Value.written (value : Value) : Value × Option String :=
  let encoded := Encoded.ofValue (GraphObject.storedValue value) false
  (encoded.stored, encoded.fullText)

namespace Value

theorem written_of_overflow {value : Value} {text : String}
    (long : Encoded.overflow? (GraphObject.storedValue value) = some text) :
    value.written = (Overflow.ofText value.kind Overflow.marker, some text) ∧
      value = Overflow.ofText value.kind text := by
  have kept : GraphObject.storedValue value = value := by
    cases value with
    | uri uri => simp [GraphObject.storedValue, Encoded.overflow?] at long
    | _ => rfl
  rw [kept] at long
  refine ⟨by simp [written, Encoded.ofValue, kept, long], ?_⟩
  cases value with
  | string other | other other =>
    simp only [Encoded.overflow?, Option.ite_none_right_eq_some] at long
    rw [Option.some.inj long.2]
    rfl
  | _ => simp [Encoded.overflow?] at long

theorem written_of_short {value : Value}
    (short : Encoded.overflow? (GraphObject.storedValue value) = none) :
    value.written = (GraphObject.storedValue value, none) := by
  simp [written, Encoded.ofValue, short]

theorem isMarked_storedValue (value : Value) :
    Overflow.isMarked (GraphObject.storedValue value) = Overflow.isMarked value := by
  cases value <;> rfl

/-- A value that is no marker reads back from its rows, wherever texts come with rows. -/
theorem canRead_written {mode : Overflow.Mode} {value : Value}
    (plain : Overflow.isMarked value = false) : mode.CanRead value.written := by
  intro _ marked
  cases long : Encoded.overflow? (GraphObject.storedValue value) with
  | some text => rw [(written_of_overflow long).1]; rfl
  | none =>
    rw [written_of_short long] at marked
    rw [isMarked_storedValue, plain] at marked
    exact absurd marked (by simp)

theorem readValue_written {scope : ReadingScope} (mode : scope.options.overflow = .inline)
    {value : Value} (plain : Overflow.isMarked value = false) :
    scope.readValue value.written =
      ReadingScope.moved scope.namespaces (GraphObject.storedValue value) := by
  cases long : Encoded.overflow? (GraphObject.storedValue value) with
  | some text =>
    obtain ⟨written, same⟩ := written_of_overflow long
    have marked : Overflow.isMarked (Overflow.ofText value.kind Overflow.marker) = true := by
      cases value.kind <;> rfl
    have kind : (Overflow.ofText value.kind Overflow.marker).kind = value.kind := by
      cases value <;> first | rfl | simp [Encoded.overflow?, GraphObject.storedValue] at long
    have kept : GraphObject.storedValue value = value := by
      cases value <;> first | rfl | simp [Encoded.overflow?, GraphObject.storedValue] at long
    have read : scope.readValue value.written = value := by
      rw [written, ReadingScope.readValue]
      simp only [mode, marked, kind]
      exact same.symm
    rw [read, kept, ReadingScope.moved_eq_self]
    exact same ▸ ReadingScope.ofText_ne_uri _ _
  | none =>
    rw [written_of_short long]
    simp [ReadingScope.readValue, mode, isMarked_storedValue, plain]

end Value

theorem GraphObject.stored_rowOfValue (registry : Registry) (object : GraphObject) (name : String)
    (held : PropertyValue) (value : Value) :
    ((rowOfValue registry object name held value).value,
      (rowOfValue registry object name held value).fullText) = value.written := by
  cases long : Encoded.overflow? (storedValue value) <;>
    simp [rowOfValue, Value.written, Encoded.ofValue, long]

namespace PropertyRows

/-- The rows of one property of an object. -/
def ofHeld (registry : Registry) (name : String) (held : PropertyValue) : PropertyRows :=
  ⟨(registry.property? name).isNone, held.isMulti, held.values.map Value.written⟩

variable {registry : Registry} {object : GraphObject}

theorem map_rowsOfEntry (registry : Registry) (object : GraphObject) (name : String)
    (held : PropertyValue) :
    (GraphObject.rowsOfEntry registry object name held).map
      (fun row => (row.value, row.fullText)) = held.values.map Value.written :=
  List.map_map.trans (List.map_congr_left fun value _ =>
    GraphObject.stored_rowOfValue registry object name held value)

theorem ofRows?_rowsOfEntry {name : String} {held : PropertyValue} (filled : held.values ≠ []) :
    ofRows? (GraphObject.rowsOfEntry registry object name held) =
      some (ofHeld registry (versionless name) held) := by
  have values := map_rowsOfEntry registry object name held
  unfold GraphObject.rowsOfEntry at values ⊢
  unfold ofHeld
  rw [← values]
  cases listed : held.values with
  | nil => exact absurd listed filled
  | cons value rest => rfl

end PropertyRows

/-- Whether objects of a version of an ontology are read: that version is loaded, or nothing is
enforced, or the loaded one is the same or reads it. -/
def Registry.Accepts (registry : Registry) (enforcement : Enforcement) (ontologyUri : String)
    (persisted : Version) : Prop :=
  enforcement = .strict → (registry.older? ontologyUri persisted).isNone = true →
    ∀ loaded ∈ registry.ontology? ontologyUri,
      loaded.version = persisted ∨ loaded.reads persisted = true

/-- Reconciling gives the namespaces of the older version, if that is loaded. -/
theorem reconcile_eq_ok {registry : Registry} {enforcement : Enforcement}
    {uri ontologyUri raw : String} {persisted : Version} {grouped : Dictionary PropertyRows}
    (named : PropertyRows.firstText? grouped Vocabulary.hasOntologyIri = some ontologyUri)
    (dated : PropertyRows.firstText? grouped Vocabulary.hasVersionIri = some raw)
    (read : Version.read raw = .ok persisted)
    {namespaces : Option (Dictionary String)} :
    reconcile registry enforcement uri grouped = .ok namespaces ↔
      registry.Accepts enforcement ontologyUri persisted ∧
        registry.olderNamespaces? ontologyUri persisted = namespaces := by
  have known : registry.olderNamespaces? ontologyUri persisted = none ↔
      registry.older? ontologyUri persisted = none := by
    simp [Registry.olderNamespaces?]
  rw [reconcile, named, dated]
  simp only [read, ok_bind, Registry.Accepts]
  cases older : registry.olderNamespaces? ontologyUri persisted with
  | some found =>
    have loaded : (registry.older? ontologyUri persisted).isNone = false := by
      rw [← Bool.not_eq_true, Option.isNone_iff_eq_none, ← known, older]
      simp
    simp [loaded, pure, Except.pure]
  | none =>
    have absent : (registry.older? ontologyUri persisted).isNone = true := by
      rw [Option.isNone_iff_eq_none, ← known, older]
    cases registry.ontology? ontologyUri with
    | none => simp [pure, Except.pure]
    | some loaded =>
      by_cases same : loaded.version = persisted
      · simp [same, pure, Except.pure]
      · cases enforcement with
        | strict =>
          by_cases reads : loaded.reads persisted = true <;>
            simp [same, reads, absent, pure, Except.pure]
        | tolerant | lenient => simp [same, pure, Except.pure]

/-- Rows that do not say with which version of which ontology they were written are taken as they
are. Otherwise that version has to be accepted, and they are read in its namespaces if it is loaded
beside the current one. -/
theorem reconcile_eq_ok_iff {registry : Registry} {enforcement : Enforcement} {uri : String}
    {grouped : Dictionary PropertyRows} {namespaces : Option (Dictionary String)} :
    reconcile registry enforcement uri grouped = .ok namespaces ↔
      ((PropertyRows.firstText? grouped Vocabulary.hasOntologyIri = none ∨
          PropertyRows.firstText? grouped Vocabulary.hasVersionIri = none) ∧ none = namespaces) ∨
      ∃ ontologyUri raw persisted,
        PropertyRows.firstText? grouped Vocabulary.hasOntologyIri = some ontologyUri ∧
        PropertyRows.firstText? grouped Vocabulary.hasVersionIri = some raw ∧
        Version.read raw = .ok persisted ∧ registry.Accepts enforcement ontologyUri persisted ∧
        registry.olderNamespaces? ontologyUri persisted = namespaces := by
  cases named : PropertyRows.firstText? grouped Vocabulary.hasOntologyIri with
  | none => simp [reconcile, named]
  | some ontologyUri =>
    cases dated : PropertyRows.firstText? grouped Vocabulary.hasVersionIri with
    | none => simp [reconcile, named, dated]
    | some raw =>
      cases read : Version.read raw with
      | error error =>
        rw [reconcile, named, dated]
        simp [read]
      | ok persisted =>
        rw [reconcile_eq_ok named dated read]
        simp [read]

/-- The older namespaces in which rows are read are those of a version that is loaded. -/
theorem exists_loaded_of_reconcile {registry : Registry} {enforcement : Enforcement} {uri : String}
    {grouped : Dictionary PropertyRows} {namespaces : Dictionary String}
    (reconciled : reconcile registry enforcement uri grouped = .ok (some namespaces)) :
    ∃ domain version, registry.olderNamespaces? domain version = some namespaces := by
  rcases reconcile_eq_ok_iff.1 reconciled with ⟨-, absent⟩ | ⟨domain, _, version, -, -, -, -, loaded⟩
  · cases absent
  · exact ⟨domain, version, loaded⟩

namespace GraphObject

/-- The older namespaces in which objects of an ontology are read, if that version of it is loaded
beside the current one. -/
def readNamespaces (registry : Registry) (ontology : OntologyDef) : Option (Dictionary String) :=
  registry.olderNamespaces? (versionless ontology.uri) ontology.version

/-- The class that an object has where it is read. -/
def readClass (registry : Registry) (ontology : OntologyDef) (object : GraphObject) : String :=
  ReadingScope.readUri (readNamespaces registry ontology) (versionless object.vitaltype)

/-- Where an object is read. -/
def readScope (registry : Registry) (options : ReadOptions) (ontology : OntologyDef)
    (object : GraphObject) : ReadingScope :=
  .ofClass registry options object.uri (readNamespaces registry ontology)
    (object.readClass registry ontology)

/-- What an object is where it is read, without its properties. -/
def readStart (registry : Registry) (ontology : OntologyDef) (object : GraphObject) :
    DecodedObject where
  object :=
    { uri := object.uri
      vitaltype := object.readClass registry ontology
      types := ReadingScope.typesOf (object.readClass registry ontology)
        (object.types.map fun type =>
          ReadingScope.readUri (readNamespaces registry ontology) (versionless type))
      properties := ∅ }
  deferred := []

variable {registry : Registry} {object : GraphObject} {ontology : OntologyDef} {rows : List Row}

section Grouped

variable {grouped : Dictionary PropertyRows}
  (made : (object.entries ontology).flatMap (fun entry =>
    rowsOfEntry registry object entry.1 entry.2) = rows)
  (stands : PropertyRows.Stands object.uri rows grouped)
include made stands

theorem find?_of_structural {name : String} {held : PropertyValue}
    (listed : (name, held) ∈ object.structuralEntries ontology) (filled : held.values ≠ []) :
    grouped.find? name = some (.ofHeld registry name held) := by
  rw [stands.found, named_of_isStructural made listed, PropertyRows.ofRows?_rowsOfEntry filled,
    versionless_of_isStructural (isStructural_of_mem_structuralEntries listed)]

theorem firstText?_of_structural {name : String} {value : Value}
    (listed : (name, .single value) ∈ object.structuralEntries ontology) :
    PropertyRows.firstText? grouped name = value.written.1.text? := by
  rw [PropertyRows.firstText?, find?_of_structural made stands listed (List.cons_ne_nil _ _)]
  rfl

theorem reconcile_written {enforcement : Enforcement} {namespaces : Option (Dictionary String)} :
    reconcile registry enforcement object.uri grouped = .ok namespaces ↔
      registry.Accepts enforcement (versionless ontology.uri) ontology.version ∧
        readNamespaces registry ontology = namespaces := by
  have named : (Vocabulary.hasOntologyIri, .single (.uri ontology.uri)) ∈
      object.structuralEntries ontology := by simp [structuralEntries, OntologyDef.describing]
  have dated : (Vocabulary.hasVersionIri, .single (.string ontology.version.text)) ∈
      object.structuralEntries ontology := by simp [structuralEntries, OntologyDef.describing]
  apply reconcile_eq_ok
  · rw [firstText?_of_structural made stands named]
    rfl
  · rw [firstText?_of_structural made stands dated, Value.written_of_short]
    · rfl
    · have short := ontology.version.length_text_le
      exact if_neg (by simp only [Overflow.threshold]; omega)
  · exact ontology.version.read_text

end Grouped

/-- An object that may be written has its class as its first type. -/
theorem head?_types_of_validate (valid : object.validate = .ok ()) :
    object.types.head? = some object.vitaltype :=
  (validate_eq_ok.1 valid).2.2

theorem types_ne_nil_of_validate (valid : object.validate = .ok ()) : object.types ≠ [] := by
  intro empty
  have first := head?_types_of_validate valid
  rw [empty] at first
  cases first

theorem listedTypes_written (namespaces : Option (Dictionary String)) :
    ReadingScope.listedTypes namespaces
        (.ofHeld registry Vocabulary.types (.multi (object.types.map .uri))) =
      object.types.map fun type => ReadingScope.readUri namespaces (versionless type) := by
  have texts : (object.types.map fun type => Value.written (.uri type)).filterMap
      (fun stored => stored.1.text?) = object.types.map versionless := by
    rw [List.filterMap_map]
    exact List.filterMap_eq_map_iff_forall_eq_some.2 fun _ _ => rfl
  simp only [ReadingScope.listedTypes, PropertyRows.ofHeld, PropertyValue.values, List.map_map]
  exact (congrArg (List.map _) texts).trans (List.map_map ..)

/-- Rows that one registry wrote are read with another one exactly if they can be grouped, their
version is accepted, the class is registered where it is read, and all properties read. -/
theorem ofRows_written {reader : Registry} (written : object.toRows registry = .ok rows)
    {options : ReadOptions} {decoded : DecodedObject} :
    DecodedObject.ofRows reader options rows = .ok (some decoded) ↔
      ∃ grouped namespaces, PropertyRows.Stands object.uri rows grouped ∧
        reconcile reader options.enforcement object.uri grouped = .ok namespaces ∧
        let vitaltype := ReadingScope.readUri namespaces (versionless object.vitaltype)
        let scope := ReadingScope.ofClass reader options object.uri namespaces vitaltype
        let types := object.types.map fun type =>
          ReadingScope.readUri namespaces (versionless type)
        (reader.class? vitaltype).isSome = true ∧
        (∀ entry ∈ grouped.entries, scope.Reads entry.1 entry.2) ∧
        scope.taken ⟨⟨object.uri, vitaltype, ReadingScope.typesOf vitaltype types, ∅⟩, []⟩
          grouped.entries = decoded := by
  obtain ⟨valid, ontology, -, made⟩ := toRows_eq_ok.1 written
  obtain ⟨row, listed, -⟩ := exists_vitaltype_row written
  cases split : rows with
  | nil => exact absurd (split ▸ listed) List.not_mem_nil
  | cons first rest =>
    have uri : first.uri = object.uri :=
      (repeated_of_mem_toRows written (split ▸ List.mem_cons_self)).1
    rw [DecodedObject.ofRows_eq_some, ← split, uri]
    apply exists_congr
    intro grouped
    rw [PropertyRows.group_eq_ok, exists_and_left]
    apply and_congr_right
    intro stands
    have typed : PropertyRows.firstText? grouped Vocabulary.vitaltype =
        some (versionless object.vitaltype) := by
      rw [firstText?_of_structural made stands List.mem_cons_self]
      rfl
    have typeRows : grouped.find? Vocabulary.types =
        some (.ofHeld registry Vocabulary.types (.multi (object.types.map .uri))) := by
      apply find?_of_structural made stands (List.mem_cons_of_mem _ List.mem_cons_self)
      exact fun empty => types_ne_nil_of_validate valid (List.map_eq_nil_iff.1 empty)
    rw [ReadingScope.readGrouped_eq_ok]
    constructor
    · intro read
      obtain ⟨_, _, namespaces, typed', typeRows', reconciled, registered, reads, taken⟩ := read
      obtain rfl := Option.some.inj (typed.symm.trans typed')
      obtain rfl := Option.some.inj (typeRows.symm.trans typeRows')
      rw [listedTypes_written] at taken
      exact ⟨namespaces, reconciled, registered, reads, taken⟩
    · intro stated
      obtain ⟨namespaces, reconciled, registered, reads, taken⟩ := stated
      refine ⟨_, _, namespaces, typed, typeRows, reconciled, registered, reads, ?_⟩
      rw [listedTypes_written]
      exact taken

/-- An object reads back from its rows exactly if they can be grouped, its version is accepted, its
class is registered where it is read, and all of its properties read. -/
theorem ofRows_toRows (written : object.toRows registry = .ok rows)
    (described : object.ontology? registry = some ontology) {options : ReadOptions}
    {decoded : DecodedObject} :
    DecodedObject.ofRows registry options rows = .ok (some decoded) ↔
      ∃ grouped, PropertyRows.Stands object.uri rows grouped ∧
        registry.Accepts options.enforcement (versionless ontology.uri) ontology.version ∧
        (registry.class? (object.readClass registry ontology)).isSome = true ∧
        (∀ entry ∈ grouped.entries,
          (object.readScope registry options ontology).Reads entry.1 entry.2) ∧
        (object.readScope registry options ontology).taken (object.readStart registry ontology)
          grouped.entries = decoded := by
  obtain ⟨-, ontology', same, made⟩ := toRows_eq_ok.1 written
  obtain rfl : ontology' = ontology := Option.some.inj (same.symm.trans described)
  rw [ofRows_written written]
  constructor
  · intro read
    obtain ⟨grouped, _, stands, reconciled, read⟩ := read
    obtain ⟨accepts, rfl⟩ := (reconcile_written made stands).1 reconciled
    exact ⟨grouped, stands, accepts, read⟩
  · intro stated
    obtain ⟨grouped, stands, accepts, read⟩ := stated
    exact ⟨grouped, _, stands, (reconcile_written made stands).2 ⟨accepts, rfl⟩, read⟩

end GraphObject

end GraphSegments
