import GraphSegments.Proofs.Dictionaries
import GraphSegments.Proofs.Results
import GraphSegments.Table.Writing

/-!
The rows that objects are written as: one for each value of each property, and in each of them what
the table repeats of the object.
-/

namespace GraphSegments
open Results

/-- The structural properties are named in the current vocabulary. -/
theorem versionless_of_isStructural {name : String}
    (structural : Vocabulary.isStructural name = true) :
    versionless name = name := by
  have current : ∀ name ∈ Vocabulary.structural, versionless name = name := by decide
  exact current name (List.contains_iff_mem.1 structural)

@[simp] theorem versionless_hasTimestamp :
    versionless Vocabulary.hasTimestamp = Vocabulary.hasTimestamp := by decide

@[simp] theorem versionless_hasChannel :
    versionless Vocabulary.hasChannel = Vocabulary.hasChannel := by decide

namespace GraphObject

/-- What an object needs to be written: a URI, a class, and the class as its first type. -/
theorem validate_eq_ok {object : GraphObject} :
    object.validate = .ok () ↔ Text.allBlank object.uri = false ∧
      Text.allBlank object.vitaltype = false ∧ object.types.head? = some object.vitaltype := by
  unfold validate
  cases Text.allBlank object.uri <;> cases Text.allBlank object.vitaltype <;> simp

/-- The row of one of the values that an object holds under a name. -/
def rowOfValue (registry : Registry) (object : GraphObject) (name : String) (held : PropertyValue)
    (value : Value) : Row :=
  let encoded := Encoded.ofValue (storedValue value) held.isMulti
  { uri := object.uri
    name := versionless name
    vitaltype := versionless object.vitaltype
    external := (registry.property? (versionless name)).isNone
    tstamp := object.timestamp?
    channel := object.channel? registry
    value := encoded.stored
    multi := held.isMulti
    fullText := encoded.fullText }

/-- What is written under names that are not structural are the properties of the object. -/
theorem isStructural_or_of_mem_entries {object : GraphObject} {ontology : OntologyDef}
    {name : String} {held : PropertyValue} (entry : (name, held) ∈ object.entries ontology) :
    Vocabulary.isStructural name = true ∨
      (name, held) ∈ object.properties.entries ∧
        Vocabulary.isStructural (versionless name) = false := by
  simp only [entries, List.cons_append, List.nil_append, List.mem_cons, List.mem_append,
    List.mem_filter, Prod.mk.injEq, Bool.not_eq_true', List.not_mem_nil, or_false] at entry
  rcases entry with ⟨rfl, -⟩ | ⟨rfl, -⟩ | ⟨rfl, -⟩ | own | ⟨rfl, -⟩ | ⟨rfl, -⟩
  · exact .inl (by decide)
  · exact .inl (by decide)
  · exact .inl (by decide)
  · exact .inr own
  · exact .inl (by decide)
  · exact .inl (by decide)

theorem mem_rowsOfEntry {registry : Registry} {object : GraphObject} {name : String}
    {held : PropertyValue} {row : Row} :
    row ∈ rowsOfEntry registry object name held ↔
      ∃ value ∈ held.values, rowOfValue registry object name held value = row :=
  List.mem_map

/-- The ontology with which an object is written. -/
def ontology? (registry : Registry) (object : GraphObject) : Option OntologyDef :=
  (registry.class? (versionless object.vitaltype)).bind fun definition =>
    registry.ontology? definition.ontology

/-- The rows of an object are those of its entries, in order. -/
theorem toRows_eq_ok {registry : Registry} {object : GraphObject} {rows : List Row} :
    object.toRows registry = .ok rows ↔ object.validate = .ok () ∧ ∃ ontology,
      object.ontology? registry = some ontology ∧
        (object.entries ontology).flatMap (fun entry =>
          rowsOfEntry registry object entry.1 entry.2) = rows := by
  simp only [ontology?, Option.bind_eq_some_iff]
  constructor
  · intro written
    unfold toRows at written
    obtain ⟨_, valid, written⟩ := bind_eq_ok.1 written
    dsimp only at written
    split at written
    next => exact absurd written (by simp)
    next definition known =>
      split at written
      next => exact absurd written (by simp)
      next ontology described =>
        exact ⟨valid, ontology, ⟨definition, known, described⟩, Except.ok.inj written⟩
  · intro stated
    obtain ⟨valid, ontology, ⟨definition, known, described⟩, rfl⟩ := stated
    simp only [toRows, valid, ok_bind, known, described]

section Written

variable {registry : Registry} {object : GraphObject} {rows : List Row}
  (written : object.toRows registry = .ok rows)
include written

/-- An object that is written has a registered class, and all of its entries are written. -/
theorem exists_ontology_of_toRows :
    (registry.class? (versionless object.vitaltype)).isSome = true ∧ ∃ ontology, ∀ row, row ∈ rows ↔
      ∃ name held, (name, held) ∈ object.entries ontology ∧
        ∃ value ∈ held.values, rowOfValue registry object name held value = row := by
  obtain ⟨-, ontology, described, rfl⟩ := toRows_eq_ok.1 written
  obtain ⟨definition, known, -⟩ := Option.bind_eq_some_iff.1 described
  refine ⟨by simp [known], ontology, fun row => ?_⟩
  simp only [List.mem_flatMap, Prod.exists, mem_rowsOfEntry]

/-- Every row of an object repeats the same of it. -/
theorem repeated_of_mem_toRows {row : Row} (member : row ∈ rows) :
    row.uri = object.uri ∧ row.vitaltype = versionless object.vitaltype ∧
      row.tstamp = object.timestamp? ∧ row.channel = object.channel? registry := by
  obtain ⟨-, ontology, listed⟩ := exists_ontology_of_toRows written
  obtain ⟨name, held, -, value, -, rfl⟩ := (listed row).1 member
  exact ⟨rfl, rfl, rfl, rfl⟩

theorem exists_vitaltype_row :
    ∃ row ∈ rows, row.name = Vocabulary.vitaltype := by
  obtain ⟨-, ontology, listed⟩ := exists_ontology_of_toRows written
  have entry : (Vocabulary.vitaltype, .single (.uri object.vitaltype)) ∈ object.entries ontology :=
    List.mem_append_left _ (List.mem_append_left _ List.mem_cons_self)
  exact ⟨_, (listed _).2 ⟨_, _, entry, _, List.mem_singleton_self _, rfl⟩,
    versionless_of_isStructural (by decide)⟩

/-- A property with a first value has a row, unless the property is structural. -/
theorem exists_property_row {property : String} {value : Value}
    (plain : Vocabulary.isStructural (versionless property) = false)
    (held : (object.get? property).bind (·.first?) = some value) :
    ∃ row ∈ rows, row.name = versionless property := by
  obtain ⟨-, ontology, listed⟩ := exists_ontology_of_toRows written
  obtain ⟨values, found, first⟩ := Option.bind_eq_some_iff.1 held
  have entry := Dictionary.find?_eq_some.1 found
  refine ⟨_, (listed _).2 ⟨property, values, ?_, value, List.mem_of_head? first, rfl⟩, rfl⟩
  simp [entries, entry, plain]

theorem exists_timestamp_row {instant : Int64} (stamped : object.timestamp? = some instant) :
    ∃ row ∈ rows, row.name = Vocabulary.hasTimestamp := by
  obtain ⟨value, held, -⟩ := Option.bind_eq_some_iff.1 stamped
  simpa using exists_property_row written (by decide) held

theorem exists_channel_row {channel : String} (sent : object.channel? registry = some channel) :
    ∃ row ∈ rows, row.name = Vocabulary.hasChannel := by
  unfold channel? at sent
  split at sent
  next =>
    obtain ⟨text, read, -⟩ := Option.map_eq_some_iff.1 sent
    obtain ⟨value, held, -⟩ := Option.bind_eq_some_iff.1 read
    simpa using exists_property_row written (by decide) held
  next => exact absurd sent (by simp)

/-- The rows under the name of a property that is not structural are those of its values. -/
theorem mem_toRows_of_name {name : String} (plain : Vocabulary.isStructural name = false)
    (current : ∀ entry ∈ object.properties.entries, versionless entry.1 = entry.1) {row : Row} :
    row ∈ rows ∧ row.name = name ↔ ∃ held, object.get? name = some held ∧
      ∃ value ∈ held.values, rowOfValue registry object name held value = row := by
  obtain ⟨-, ontology, listed⟩ := exists_ontology_of_toRows written
  rw [listed]
  constructor
  · intro wrote
    obtain ⟨⟨other, held, entry, value, member, rfl⟩, same⟩ := wrote
    have same : versionless other = name := same
    rcases isStructural_or_of_mem_entries entry with structural | ⟨own, -⟩
    · rw [versionless_of_isStructural structural] at same
      exact absurd (plain.symm.trans (same ▸ structural)) (by simp)
    · obtain rfl : other = name := (current _ own).symm.trans same
      exact ⟨held, Dictionary.find?_eq_some.2 own, value, member, rfl⟩
  · intro wrote
    obtain ⟨held, found, value, member, rfl⟩ := wrote
    have own := Dictionary.find?_eq_some.1 found
    have same : versionless name = name := current _ own
    refine ⟨⟨name, held, ?_, value, member, rfl⟩, same⟩
    simp [entries, own, same, plain]

end Written

theorem exists_toRows_of_allToRows {registry : Registry} {objects : List GraphObject}
    {rows : List Row} (written : allToRows registry objects = .ok rows) {object : GraphObject}
    (listed : object ∈ objects) : ∃ own, object.toRows registry = .ok own := by
  induction objects generalizing rows with
  | nil => exact absurd listed List.not_mem_nil
  | cons first rest ih =>
    obtain ⟨own, wrote, written⟩ := bind_eq_ok.1 written
    obtain ⟨others, later, -⟩ := bind_eq_ok.1 written
    rcases List.mem_cons.1 listed with rfl | listed
    · exact ⟨own, wrote⟩
    · exact ih later listed

/-- The rows of several objects are those of each. -/
theorem mem_allToRows {registry : Registry} {objects : List GraphObject} {rows : List Row}
    (written : allToRows registry objects = .ok rows) {row : Row} :
    row ∈ rows ↔ ∃ object ∈ objects, ∃ own, object.toRows registry = .ok own ∧ row ∈ own := by
  induction objects generalizing rows with
  | nil =>
    obtain rfl := Except.ok.inj written
    simp
  | cons object rest ih =>
    obtain ⟨own, first, written⟩ := bind_eq_ok.1 written
    obtain ⟨others, later, written⟩ := bind_eq_ok.1 written
    obtain rfl := Except.ok.inj written
    simp [first, ih later]

end GraphObject

end GraphSegments
