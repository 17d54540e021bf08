import GraphSegments.Proofs.Table.Cardinality
import GraphSegments.Proofs.Table.Encoding

/-!
What an object looks like in its table. Each value has its own row, in the order of the values, and
a text that is too long stands in the column for full texts. The names that describe the object are
written from the object itself, whatever properties it has under them in any version.
-/

namespace GraphSegments
open Results

/-- A row of one value of a property. The value is in its column, in the current vocabulary, or the
marker is and the full text beside it. -/
structure Row.Keeps (multi : Bool) (value : Value) (row : Row) : Prop where
  multi : row.multi = multi
  fullText : ∀ text, row.fullText = some text ↔
    (value = .string text ∨ value = .other text) ∧ 5000 < text.length
  short : row.fullText = none → row.value = GraphObject.storedValue value
  long : ∀ text, row.fullText = some text →
    row.value = Overflow.ofText value.kind Overflow.marker

namespace Encoded

theorem overflow?_eq_some {value : Value} {text : String} :
    overflow? value = some text ↔
      (value = .string text ∨ value = .other text) ∧ Overflow.threshold < text.length := by
  cases value with
  | string held | other held =>
    simp only [overflow?, Option.ite_none_right_eq_some, Option.some.injEq]
    grind
  | _ => simp [overflow?]

theorem fullText_ofValue (value : Value) (multi : Bool) :
    (ofValue value multi).fullText = overflow? value := by
  cases long : overflow? value with
  | none => rw [ofValue_of_short long]
  | some text => rw [ofValue_of_overflow long]

end Encoded

namespace GraphObject

/-- No property that is not structural shares its current name with another one. -/
def KeepsNames (object : GraphObject) : Prop :=
  object.properties.entries.Pairwise fun a b =>
    Vocabulary.isStructural (versionless a.1) = false → versionless a.1 ≠ versionless b.1

instance (object : GraphObject) : Decidable object.KeepsNames :=
  inferInstanceAs (Decidable (List.Pairwise _ _))

/-- Names that are all different in the current vocabulary are kept apart. -/
theorem keepsNames_of_nodup {object : GraphObject}
    (distinct : (object.properties.entries.map fun entry => versionless entry.1).Nodup) :
    object.KeepsNames := by
  rw [List.Nodup, List.pairwise_map] at distinct
  refine distinct.imp ?_
  intro a b differ _
  exact differ

/-- The rows of an object are well formed: they repeat what they should of it, each says whether its
property is registered, the structural names have the rows of the object itself, and any other name
has the rows of the values that the object holds under it. -/
structure IsWellFormed (registry : Registry) (object : GraphObject) (rows : List Row) : Prop where
  repeated : ∀ row ∈ rows, row.uri = object.uri ∧ row.vitaltype = versionless object.vitaltype ∧
    row.tstamp = object.timestamp? ∧ row.channel = object.channel? registry
  external : ∀ row ∈ rows, row.external = true ↔ registry.property? row.name = none
  vitaltype : ∃ row, Row.named Vocabulary.vitaltype rows = [row] ∧
    row.Keeps false (.uri object.vitaltype)
  uriProperty : ∃ row, Row.named Vocabulary.uriProperty rows = [row] ∧
    row.Keeps false (.uri object.uri)
  ontology : ∃ ontology iri version, object.ontology? registry = some ontology ∧
    Row.named Vocabulary.hasOntologyIri rows = [iri] ∧ iri.Keeps false (.uri ontology.uri) ∧
    Row.named Vocabulary.hasVersionIri rows = [version] ∧
    version.Keeps false (.string ontology.version.text)
  types : List.Forall₂ (Row.Keeps true) (object.types.map .uri) (Row.named Vocabulary.types rows)
  property : ∀ entry ∈ object.properties.entries,
    Vocabulary.isStructural (versionless entry.1) = false →
      List.Forall₂ (Row.Keeps entry.2.isMulti) entry.2.values
        (Row.named (versionless entry.1) rows)
  nothing : ∀ name, Vocabulary.isStructural name = false →
    (∀ entry ∈ object.properties.entries, versionless entry.1 ≠ name) → Row.named name rows = []

variable {registry : Registry} {object : GraphObject} {ontology : OntologyDef} {rows : List Row}

theorem keeps_rowOfValue (name : String) (held : PropertyValue) (value : Value) :
    (rowOfValue registry object name held value).Keeps held.isMulti value := by
  have same : Encoded.overflow? (storedValue value) = Encoded.overflow? value := by
    cases value <;> rfl
  have kind : (storedValue value).kind = value.kind := by
    cases value <;> rfl
  have full : (rowOfValue registry object name held value).fullText = Encoded.overflow? value :=
    (Encoded.fullText_ofValue _ _).trans same
  refine ⟨rfl, fun text => ?_, fun short => ?_, fun text long => ?_⟩
  · rw [full]
    exact Encoded.overflow?_eq_some
  · have stays := same.trans (full.symm.trans short)
    exact congrArg Encoded.stored (Encoded.ofValue_of_short stays held.isMulti)
  · have moves := same.trans (full.symm.trans long)
    exact kind ▸ congrArg Encoded.stored (Encoded.ofValue_of_overflow moves held.isMulti)

/-- The rows of a property keep its values, each its own, in their order. -/
theorem keeps_rowsOfEntry (name : String) (held : PropertyValue) :
    List.Forall₂ (Row.Keeps held.isMulti) held.values (rowsOfEntry registry object name held) :=
  List.forall₂_map_right_iff.2 (List.forall₂_same.2 fun value _ => keeps_rowOfValue name held value)

/-- A structural name that has a single value has the row of that value and no other. -/
theorem exists_row_of_single
    (made : (object.entries ontology).flatMap (fun entry =>
      rowsOfEntry registry object entry.1 entry.2) = rows) {name : String} {value : Value}
    (listed : (name, .single value) ∈ object.structuralEntries ontology) :
    ∃ row, Row.named name rows = [row] ∧ row.Keeps false value :=
  ⟨_, named_of_isStructural made listed, keeps_rowOfValue name (.single value) value⟩

/-- The properties that come to have a name are the one that has it, if names are kept apart. -/
theorem KeepsNames.filter_eq_singleton (keeps : object.KeepsNames) {entry : String × PropertyValue}
    (listed : entry ∈ object.properties.entries)
    (plain : Vocabulary.isStructural (versionless entry.1) = false) :
    object.properties.entries.filter (fun other => versionless other.1 == versionless entry.1) =
      [entry] := by
  obtain ⟨before, after, split⟩ := List.append_of_mem listed
  rw [KeepsNames, split, List.pairwise_append, List.pairwise_cons] at keeps
  obtain ⟨-, ⟨later, -⟩, earlier⟩ := keeps
  have none : before.filter (fun other => versionless other.1 == versionless entry.1) = [] := by
    rw [List.filter_eq_nil_iff]
    intro other member same
    have same : versionless other.1 = versionless entry.1 := beq_iff_eq.1 same
    exact earlier other member entry List.mem_cons_self (same ▸ plain) same
  have more : after.filter (fun other => versionless other.1 == versionless entry.1) = [] := by
    rw [List.filter_eq_nil_iff]
    exact fun other member same => later other member plain (beq_iff_eq.1 same).symm
  rw [split, List.filter_append, none, List.nil_append, List.filter_cons_of_pos (by simp), more]

/-- An object is written as well-formed rows, as long as its names stay apart in the current
vocabulary. -/
theorem isWellFormed_toRows (keeps : object.KeepsNames)
    (written : object.toRows registry = .ok rows) : object.IsWellFormed registry rows := by
  obtain ⟨-, ontology, described, made⟩ := toRows_eq_ok.1 written
  obtain ⟨iri, iris, ownIri⟩ : ∃ row, Row.named Vocabulary.hasOntologyIri rows = [row] ∧
      row.Keeps false (.uri ontology.uri) :=
    exists_row_of_single made (by simp [structuralEntries, OntologyDef.describing])
  obtain ⟨version, versions, ownVersion⟩ : ∃ row,
      Row.named Vocabulary.hasVersionIri rows = [row] ∧
        row.Keeps false (.string ontology.version.text) :=
    exists_row_of_single made (by simp [structuralEntries, OntologyDef.describing])
  constructor
  case repeated => exact fun row member => repeated_of_mem_toRows written member
  case external =>
    intro row member
    obtain ⟨-, _, among⟩ := exists_ontology_of_toRows written
    obtain ⟨name, held, -, value, -, rfl⟩ := (among row).1 member
    exact Option.isNone_iff_eq_none
  case vitaltype =>
    exact exists_row_of_single made (by simp [structuralEntries, describing])
  case uriProperty =>
    exact exists_row_of_single made (by simp [structuralEntries, describing])
  case ontology => exact ⟨ontology, iri, version, described, iris, ownIri, versions, ownVersion⟩
  case types =>
    have listed : (Vocabulary.types, .multi (object.types.map .uri)) ∈
        object.structuralEntries ontology := by simp [structuralEntries, describing]
    rw [named_of_isStructural made listed]
    exact keeps_rowsOfEntry Vocabulary.types (.multi (object.types.map .uri))
  case property =>
    intro entry member plain
    rw [named_of_plain made plain, keeps.filter_eq_singleton member plain, List.flatMap_singleton]
    exact keeps_rowsOfEntry entry.1 entry.2
  case nothing =>
    intro name plain absent
    have none : (object.properties.entries.filter fun entry => versionless entry.1 == name) =
        [] := by
      rw [List.filter_eq_nil_iff]
      exact fun entry member same => absent entry member (beq_iff_eq.1 same)
    rw [named_of_plain made plain, none, List.flatMap_nil]

/-- A node with a class of its own under a name that is written from the object, a name of another
version, a list without values, and a list with a text that is too long, under names that no
ontology knows. -/
theorem isWellFormed_toRows_versioned :
    let text := String.ofList (List.replicate 5001 'b')
    let notes := PropertyValue.multi [.string "b", .string text, .string "b"]
    let object := ((((GraphObject.ofClass "urn:a" Vocabulary.nodeClass).set
      "http://vital.ai/ontology/vital-core_v0_1_0#vitaltype" (.single (.string "urn:b"))).set
      "http://vital.ai/ontology/vital-core_v0_1_0#hasTimestamp" (.single (.long 7))).set
      "urn:none" (.multi [])).set "urn:notes" notes
    ∃ rows, object.toRows .core = .ok rows ∧
      (∃ row, Row.named Vocabulary.vitaltype rows = [row] ∧
        row.Keeps false (.uri Vocabulary.nodeClass)) ∧
      (∃ row, Row.named Vocabulary.hasTimestamp rows = [row] ∧ row.Keeps false (.long 7)) ∧
      Row.named "urn:none" rows = [] ∧
      ∃ first second third, Row.named "urn:notes" rows = [first, second, third] ∧
        first.fullText = none ∧ second.fullText = some text ∧ third.external = true := by
  intro text notes object
  have keeps : object.KeepsNames := keepsNames_of_nodup (by decide +kernel)
  have described : (object.ontology? .core).isSome = true := by decide +kernel
  obtain ⟨ontology, described⟩ := Option.isSome_iff_exists.1 described
  have valid : object.validate = .ok () := validate_eq_ok.2 (by decide +kernel)
  obtain ⟨rows, written⟩ : ∃ rows, object.toRows .core = .ok rows :=
    ⟨_, toRows_eq_ok.2 ⟨valid, ontology, described, rfl⟩⟩
  have wellFormed := isWellFormed_toRows keeps written
  have property (name current : String) (held : PropertyValue)
      (own : object.get? name = some held) (same : versionless name = current)
      (plain : Vocabulary.isStructural current = false) :
      List.Forall₂ (Row.Keeps held.isMulti) held.values (Row.named current rows) := by
    subst same
    exact wellFormed.property (name, held) (Dictionary.find?_eq_some.1 own) plain
  have stamped := property "http://vital.ai/ontology/vital-core_v0_1_0#hasTimestamp"
    Vocabulary.hasTimestamp (.single (.long 7))
    (by simp [object, get?, set, Dictionary.find?_insert]) (by decide +kernel) (by decide)
  have empty := property "urn:none" "urn:none" (.multi [])
    (by simp [object, get?, set, Dictionary.find?_insert]) (by decide +kernel) (by decide)
  have noted := property "urn:notes" "urn:notes" notes
    (by simp [object, get?, set, Dictionary.find?_insert]) (by decide +kernel) (by decide)
  obtain ⟨stamp, _, kept, none, stamps⟩ := List.forall₂_cons_left_iff.1 stamped
  obtain rfl := List.forall₂_nil_left_iff.1 none
  obtain ⟨first, _, keptFirst, later, all⟩ := List.forall₂_cons_left_iff.1 noted
  obtain ⟨second, _, keptSecond, last, rfl⟩ := List.forall₂_cons_left_iff.1 later
  obtain ⟨third, _, keptThird, none, rfl⟩ := List.forall₂_cons_left_iff.1 last
  obtain rfl := List.forall₂_nil_left_iff.1 none
  have long : 5000 < text.length := by
    rw [String.length_ofList, List.length_replicate]
    decide
  refine ⟨rows, written, wellFormed.vitaltype, ⟨stamp, stamps, kept⟩,
    List.forall₂_nil_left_iff.1 empty, first, second, third, all, ?_, ?_, ?_⟩
  · rw [Option.eq_none_iff_forall_ne_some]
    intro full exceeds
    obtain ⟨same, exceeds⟩ := (keptFirst.fullText full).1 exceeds
    obtain rfl : "b" = full := by simpa using same
    exact absurd exceeds (by decide)
  · exact (keptSecond.fullText text).2 ⟨.inl rfl, long⟩
  · obtain ⟨listed, named⟩ := Row.mem_named.1 (all ▸ by simp : third ∈ Row.named "urn:notes" rows)
    rw [wellFormed.external third listed, named]
    decide +kernel

end GraphObject

end GraphSegments
