import GraphSegments.Proofs.Database.Records
import GraphSegments.Proofs.Table.Recovery

/-!
Which objects are read back from a table. The writer asks for the class of an object alone; the
reader also asks for its version and for each of its properties. An object is read back exactly if
it meets what the reader asks for, also with its values as the columns of the table keep them.
-/

namespace GraphSegments
open Results

/-- Whether a property is read or left out: it is registered under the name that it has where the
object is read, or under none while other properties are allowed, or nothing is enforced. -/
def ReadingScope.Admits (scope : ReadingScope) (name : String) : Prop :=
  (scope.registry.property? (readUri scope.namespaces name)).isSome = true ∨
    (scope.registry.property? name = none ∧ scope.allowExternal = true) ∨
    scope.options.enforcement = .lenient

instance (scope : ReadingScope) (name : String) : Decidable (scope.Admits name) :=
  inferInstanceAs (Decidable (_ ∨ _ ∧ _ ∨ _))

/-- The rows of a plain property whose values read are read exactly if the property is admitted. -/
theorem ReadingScope.reads_iff_admits {scope : ReadingScope} {name : String} {rows : PropertyRows}
    (plain : Vocabulary.isStructural name = false)
    (external : rows.external = (scope.registry.property? name).isNone)
    (reads : ∀ one ∈ rows.values, scope.options.overflow.CanRead one) :
    scope.Reads name rows ↔ scope.Admits name := by
  simp only [Reads, Admits, plain, Bool.false_eq_true, false_or, cardinality?, external]
  cases scope.registry.property? (readUri scope.namespaces name) with
  | some definition => simpa using reads
  | none =>
    cases known : scope.registry.property? name with
    | some definition => simp
    | none =>
      cases allowed : scope.allowExternal with
      | true => simpa using reads
      | false => simp

/-- Writing a value neither makes a NaN of it nor hides one. -/
theorem Value.isNan_written (value : Value) : value.written.1.isNan = value.isNan := by
  cases long : Encoded.overflow? (GraphObject.storedValue value) with
  | some text =>
    obtain ⟨written, same⟩ := written_of_overflow long
    rw [written, same]
    cases value.kind <;> rfl
  | none =>
    rw [written_of_short long]
    cases value <;> rfl

namespace GraphObject

/-- An object that tables can hold: its properties agree where they come together, and none of its
values is a marker or a number that no column keeps. Properties that are not written do not
count. -/
structure FitsTable (object : GraphObject) : Prop where
  unambiguous : object.IsUnambiguous
  unmarked : ∀ entry ∈ object.properties.entries,
    Vocabulary.isStructural (versionless entry.1) = false → ∀ value ∈ entry.2.values,
      Overflow.isMarked value = false
  numbers : ∀ entry ∈ object.properties.entries,
    Vocabulary.isStructural (versionless entry.1) = false → ∀ value ∈ entry.2.values,
      value.isNan = false

/-- What is asked of an object where it is read: its version is accepted, its class is registered,
and each property that it holds is admitted. -/
structure IsReadableUnder (registry : Registry) (options : ReadOptions) (ontology : OntologyDef)
    (object : GraphObject) : Prop where
  accepted : registry.Accepts options.enforcement (versionless ontology.uri) ontology.version
  registered : (registry.class? (object.readClass registry ontology)).isSome = true
  admitted : ∀ entry ∈ object.properties.entries,
    Vocabulary.isStructural (versionless entry.1) = false → entry.2.values ≠ [] →
      (object.readScope registry options ontology).Admits (versionless entry.1)

/-- An object that meets what is asked of it under the ontology with which it is written. -/
def IsReadable (registry : Registry) (options : ReadOptions) (object : GraphObject) : Prop :=
  ∃ ontology, object.ontology? registry = some ontology ∧
    object.IsReadableUnder registry options ontology

variable {registry : Registry} {object : GraphObject} {ontology : OntologyDef} {rows : List Row}
  {options : ReadOptions}

section Rows

variable (made : (object.entries ontology).flatMap (fun entry =>
  rowsOfEntry registry object entry.1 entry.2) = rows)
include made

/-- A row of a plain property has one of the values that the object holds under a name which
becomes that of the property. -/
theorem mem_rows_of_plain {row : Row} (plain : Vocabulary.isStructural row.name = false) :
    row ∈ rows ↔ ∃ entry ∈ object.properties.entries, ∃ value ∈ entry.2.values,
      rowOfValue registry object entry.1 entry.2 value = row := by
  have named : row ∈ rows ↔ row ∈ Row.named row.name rows := by simp [Row.mem_named]
  rw [named, named_of_plain made plain]
  simp only [List.mem_flatMap, List.mem_filter, mem_rowsOfEntry, beq_iff_eq]
  constructor
  · intro stated
    obtain ⟨entry, ⟨listed, -⟩, value, held, same⟩ := stated
    exact ⟨entry, listed, value, held, same⟩
  · intro stated
    obtain ⟨entry, listed, value, held, rfl⟩ := stated
    exact ⟨entry, ⟨listed, rfl⟩, value, held, rfl⟩

/-- What is written of an object are values that columns keep. -/
theorem FitsTable.isNan_eq_false (fits : object.FitsTable) {row : Row} (listed : row ∈ rows) :
    row.value.isNan = false := by
  rw [← made, List.mem_flatMap] at listed
  obtain ⟨⟨name, held⟩, entry, own⟩ := listed
  obtain ⟨value, member, rfl⟩ := mem_rowsOfEntry.1 own
  have stored : (rowOfValue registry object name held value).value.isNan = value.isNan := by
    rw [← value.isNan_written, ← stored_rowOfValue registry object name held]
  rw [stored]
  rcases mem_entries.1 entry with structural | ⟨plain, unstructural⟩
  · simp only [structuralEntries, describing, OntologyDef.describing, List.cons_append,
      List.nil_append, List.mem_cons, Prod.mk.injEq, List.not_mem_nil, or_false] at structural
    rcases structural with ⟨-, rfl⟩ | ⟨-, rfl⟩ | ⟨-, rfl⟩ | ⟨-, rfl⟩ | ⟨-, rfl⟩
    · exact List.mem_singleton.1 member ▸ rfl
    · obtain ⟨type, -, rfl⟩ := List.mem_map.1 member
      rfl
    all_goals exact List.mem_singleton.1 member ▸ rfl
  · exact fits.numbers _ plain unstructural value member

variable {grouped : Dictionary PropertyRows}
  (stands : PropertyRows.Stands object.uri rows grouped)
include stands

/-- A plain property is read exactly if it is admitted. -/
theorem FitsTable.reads_iff_admits (fits : object.FitsTable) {name : String}
    {together : PropertyRows} (listed : (name, together) ∈ grouped.entries)
    (plain : Vocabulary.isStructural name = false) :
    (object.readScope registry options ontology).Reads name together ↔
      (object.readScope registry options ontology).Admits name := by
  apply ReadingScope.reads_iff_admits plain
  · obtain ⟨row, inside, rfl, external⟩ := stands.exists_row listed
    obtain ⟨entry, -, value, -, rfl⟩ := (mem_rows_of_plain made plain).1 inside
    exact external.symm
  · rw [stands.values listed, List.forall_mem_map]
    intro row named
    obtain ⟨inside, rfl⟩ := Row.mem_named.1 named
    obtain ⟨⟨written, held⟩, own, value, member, rfl⟩ := (mem_rows_of_plain made plain).1 inside
    rw [stored_rowOfValue]
    exact Value.canRead_written (fits.unmarked _ own plain value member)

/-- A property that holds a value has rows. -/
theorem exists_together {entry : String × PropertyValue}
    (own : entry ∈ object.properties.entries)
    (plain : Vocabulary.isStructural (versionless entry.1) = false) (filled : entry.2.values ≠ []) :
    ∃ together, (versionless entry.1, together) ∈ grouped.entries := by
  obtain ⟨value, member⟩ := List.exists_mem_of_ne_nil _ filled
  have inside : rowOfValue registry object entry.1 entry.2 value ∈ rows :=
    (mem_rows_of_plain made plain).2 ⟨entry, own, value, member, rfl⟩
  exact stands.exists_grouped inside

end Rows

section Written

variable (written : object.toRows registry = .ok rows) (fits : object.FitsTable)
include written fits

theorem FitsTable.exists_stands : ∃ grouped, PropertyRows.Stands object.uri rows grouped := by
  obtain ⟨grouped, made⟩ := PropertyRows.exists_group
    (fun _ listed => (repeated_of_mem_toRows written listed).1)
    ((coherent_toRows_iff written).2 fits.unambiguous)
  exact ⟨grouped, PropertyRows.group_eq_ok.1 made⟩

/-- An object is read back from its rows exactly if it meets what is asked of it. -/
theorem FitsTable.exists_ofRows_iff :
    (∃ decoded, DecodedObject.ofRows registry options rows = .ok (some decoded)) ↔
      object.IsReadable registry options := by
  obtain ⟨-, ontology, described, made⟩ := toRows_eq_ok.1 written
  simp only [ofRows_toRows written described]
  constructor
  · intro read
    obtain ⟨_, grouped, stands, accepted, registered, reads, -⟩ := read
    refine ⟨ontology, described, accepted, registered, fun entry own plain filled => ?_⟩
    obtain ⟨together, listed⟩ := exists_together made stands own plain filled
    exact (fits.reads_iff_admits made stands listed plain).1 (reads _ listed)
  · intro readable
    obtain ⟨known, same, accepted, registered, admitted⟩ := readable
    obtain rfl : known = ontology := Option.some.inj (same.symm.trans described)
    obtain ⟨grouped, stands⟩ := fits.exists_stands written
    refine ⟨_, grouped, stands, accepted, registered, fun entry listed => ?_, rfl⟩
    by_cases plain : Vocabulary.isStructural entry.1 = false
    · obtain ⟨row, inside, named, -⟩ := stands.exists_row listed
      obtain ⟨own, member, value, held, rfl⟩ :=
        (mem_rows_of_plain made (named ▸ plain)).1 inside
      have named : versionless own.1 = entry.1 := named
      rw [fits.reads_iff_admits made stands listed plain, ← named]
      exact admitted own member (named ▸ plain) (List.ne_nil_of_mem held)
    · exact .inl (by simpa using plain)

/-- It makes no difference that columns keep some numbers in a way of their own. -/
theorem FitsTable.exists_ofRows_kept_iff :
    (∃ decoded, DecodedObject.ofRows registry options
      (rows.map (Row.withStored Value.storedKept)) = .ok (some decoded)) ↔
      object.IsReadable registry options := by
  rw [← fits.exists_ofRows_iff written]
  obtain ⟨grouped, stands⟩ := fits.exists_stands written
  obtain ⟨row, listed, -⟩ := exists_vitaltype_row written
  apply DecodedObject.exists_ofRows_withStored stands (List.ne_nil_of_mem listed)
  · exact fun stored => stored.1.text?_kept
  · intro stored
    simp only [Overflow.Mode.CanRead, Value.storedKept, Value.isMarked_kept]

end Written

end GraphObject

end GraphSegments
