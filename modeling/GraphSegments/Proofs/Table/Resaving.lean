import GraphSegments.Proofs.Ontology.Rewriting
import GraphSegments.Proofs.Table.Deferral
import GraphSegments.Proofs.Table.Readability
import GraphSegments.Proofs.Table.Soundness

/-!
Saving an object that was read in the namespaces of an older version. Writing takes the version off
again, so what was stored under one name is stored under it once more: the object gets the names,
types and URIs that it had, whatever was imported by the older version.
-/

namespace GraphSegments
open Results

/-- The URI that a value is, if it is one. -/
def Value.uri? : Value → Option String
  | .uri text => some text
  | _ => none

namespace Row

/-- A row in the current vocabulary: its name and its value carry no version. -/
def IsCurrent (row : Row) : Prop :=
  versionless row.name = row.name ∧ GraphObject.storedValue row.value = row.value

instance (row : Row) : Decidable row.IsCurrent := inferInstanceAs (Decidable (_ = _ ∧ _ = _))

/-- The URIs that are stored under a name, in the order of their rows. -/
def uris (name : String) (rows : List Row) : List String :=
  (named name rows).filterMap fun row => row.value.uri?

end Row

theorem Value.uri?_written (value : Value) :
    value.written.1.uri? = value.uri?.map versionless := by
  have plain (kind : ValueKind) (text : String) : (Overflow.ofText kind text).uri? = none := by
    cases kind <;> rfl
  cases long : Encoded.overflow? (GraphObject.storedValue value) with
  | some text =>
    obtain ⟨written, same⟩ := written_of_overflow long
    rw [written, same, plain, plain]
    rfl
  | none =>
    rw [written_of_short long]
    cases value <;> rfl

theorem GraphObject.uris_rowsOfEntry (registry : Registry) (object : GraphObject) (name : String)
    (held : PropertyValue) :
    (rowsOfEntry registry object name held).filterMap (fun row => row.value.uri?) =
      held.values.filterMap fun value => value.uri?.map versionless := by
  have rows : rowsOfEntry registry object name held =
      held.values.map (rowOfValue registry object name held) := rfl
  rw [rows, List.filterMap_map]
  apply List.filterMap_congr
  intro value _
  have stored := congrArg Prod.fst (stored_rowOfValue registry object name held value)
  exact (congrArg Value.uri? stored).trans value.uri?_written

namespace ReadingScope

section Undone

variable {namespaces : Option (Dictionary String)}

/-- Reading an object in older namespaces is undone where it is written. -/
theorem areUndone_of_reconcile {registry : Registry} {enforcement : Enforcement} {uri : String}
    {grouped : Dictionary PropertyRows} (plain : registry.HasPlainDomains)
    (reconciled : reconcile registry enforcement uri grouped = .ok namespaces) :
    ∀ older ∈ namespaces, AreUndone older := by
  rintro older rfl
  obtain ⟨_, _, loaded⟩ := exists_loaded_of_reconcile reconciled
  exact plain.areUndone loaded

variable (undone : ∀ older ∈ namespaces, AreUndone older)
include undone

theorem versionless_readUri {uri : String} (current : versionless uri = uri) :
    versionless (readUri namespaces uri) = uri := by
  cases namespaces with
  | none => exact current
  | some older => exact (undone older rfl).versionless_toOlder current

end Undone

section Held

variable {scope : ReadingScope} {uri name : String} {rows : List Row}
  {grouped : Dictionary PropertyRows} {together : PropertyRows} {held : PropertyValue}

/-- All rows of a property are read. -/
theorem values_of_held (stands : PropertyRows.Stands uri rows grouped)
    (found : grouped.find? name = some together) (reads : scope.held? name together = some held) :
    held.values = together.values.map scope.readValue := by
  rcases (held?_eq_some.1 reads).2 with ⟨-, rfl⟩ | ⟨single, stored, first, rfl⟩
  · rfl
  · obtain ⟨only, values⟩ :=
      stands.exists_single found (multi_eq_false_of_cardinality? single)
    rw [values] at first ⊢
    obtain rfl := Option.some.inj first
    rfl

variable (undone : ∀ older ∈ scope.namespaces, AreUndone older)
include undone

theorem uri?_readValue {stored : Value × Option String}
    (current : GraphObject.storedValue stored.1 = stored.1) :
    (scope.readValue stored).uri?.map versionless = stored.1.uri? := by
  unfold readValue
  split
  next _ _ text _ marked _ =>
    have plain : stored.1.uri? = none := by
      cases value : stored.1 with
      | uri uri => exact absurd value (ne_uri_of_isMarked marked uri)
      | _ => rfl
    rw [plain]
    cases stored.1.kind <;> rfl
  next =>
    cases value : stored.1 with
    | uri uri =>
      rw [value] at current
      exact congrArg some (versionless_readUri undone (Value.uri.inj current))
    | _ => rfl

variable (stands : PropertyRows.Stands uri rows grouped) (current : ∀ row ∈ rows, row.IsCurrent)
include stands current

omit undone in
theorem versionless_of_grouped (listed : (name, together) ∈ grouped.entries) :
    versionless name = name := by
  obtain ⟨row, inside, rfl, -⟩ := stands.exists_row listed
  exact (current row inside).1

/-- No two stored names are read under one name. -/
theorem nodup_readUri :
    (grouped.entries.map fun entry => readUri scope.namespaces entry.1).Nodup := by
  have back : (grouped.entries.map fun entry => readUri scope.namespaces entry.1).map versionless =
      grouped.entries.map (·.1) := by
    rw [List.map_map]
    exact List.map_congr_left fun entry listed =>
      versionless_readUri undone (versionless_of_grouped stands current listed)
  exact .of_map versionless (back ▸ grouped.nodup_keys)

/-- A property that is read has been stored under its name without the version. -/
theorem exists_grouped_of_read {entry : String × PropertyValue}
    (listed : entry ∈ (grouped.entries.foldl scope.put ∅).entries) :
    ∃ together, (versionless entry.1, together) ∈ grouped.entries ∧
      readUri scope.namespaces (versionless entry.1) = entry.1 ∧
      scope.held? (versionless entry.1) together = some entry.2 := by
  rcases exists_held_of_foldl_put (Dictionary.find?_eq_some.2 listed) with before |
    ⟨⟨storedName, together⟩, stored, same, held⟩
  · cases before
  · have back : versionless entry.1 = storedName := by
      rw [← same]
      exact versionless_readUri undone (versionless_of_grouped stands current stored)
    rw [back]
    exact ⟨together, stored, same, held⟩

/-- One property at most becomes a stored name again: the one that is read from its rows. -/
theorem filter_read (listed : (name, together) ∈ grouped.entries) :
    (grouped.entries.foldl scope.put ∅).entries.filter (fun entry => versionless entry.1 == name) =
      ((scope.held? name together).map (Prod.mk (readUri scope.namespaces name))).toList := by
  have apart := nodup_readUri undone stands current
  have back := versionless_readUri undone (versionless_of_grouped stands current listed)
  -- Reading can be taken back, so to become a name again is to be what that name is read as.
  have alike : (grouped.entries.foldl scope.put ∅).entries.filter
        (fun entry => versionless entry.1 == name) =
      (grouped.entries.foldl scope.put ∅).entries.filter
        (·.1 == readUri scope.namespaces name) := by
    apply List.filter_congr
    intro entry member
    obtain ⟨-, -, same, -⟩ := exists_grouped_of_read undone stands current member
    have known : versionless entry.1 = name ↔ entry.1 = readUri scope.namespaces name :=
      ⟨fun named => by rw [← named, same], fun named => by rw [named, back]⟩
    simp [known]
  rw [alike]
  cases held : scope.held? name together with
  | some value =>
    exact Dictionary.filter_eq_singleton (Dictionary.nodup_keys _)
      (Dictionary.find?_eq_some.1 (find?_foldl_put ∅ apart listed held))
  | none =>
    rw [Option.map_none, Option.toList_none, List.filter_eq_nil_iff]
    intro entry member named
    obtain ⟨other, stored, -, found⟩ := exists_grouped_of_read undone stands current member
    have same : versionless entry.1 = name := by
      rw [beq_iff_eq.1 named, back]
    rw [same] at stored found
    have equal := (Dictionary.find?_eq_some.2 stored).symm.trans (Dictionary.find?_eq_some.2 listed)
    obtain rfl := Option.some.inj equal
    exact absurd (held.symm.trans found) (by simp)

/-- The URIs of a property that is read are those stored under its name. -/
theorem uris_of_held (listed : (name, together) ∈ grouped.entries)
    (reads : scope.held? name together = some held) :
    held.values.filterMap (fun value => value.uri?.map versionless) = Row.uris name rows := by
  rw [values_of_held stands (Dictionary.find?_eq_some.2 listed) reads, stands.values listed,
    List.map_map, List.filterMap_map, Row.uris]
  apply List.filterMap_congr
  intro row member
  exact uri?_readValue undone (current row (Row.mem_named.1 member).1).2

end Held

end ReadingScope

theorem Row.versionless_of_mem_uris {rows : List Row} {name uri : String}
    (current : ∀ row ∈ rows, row.IsCurrent) (listed : uri ∈ Row.uris name rows) :
    versionless uri = uri := by
  obtain ⟨row, member, same⟩ := List.mem_filterMap.1 listed
  have stored := (current row (Row.mem_named.1 member).1).2
  cases value : row.value with
  | uri text =>
    rw [value] at stored same
    obtain rfl := Option.some.inj same
    exact Value.uri.inj stored
  | _ =>
    rw [value] at same
    cases same

namespace GraphObject

/-- What an object keeps of its rows when it is read and saved again. -/
structure KeepsVocabulary (options : ReadOptions) (read : GraphObject) (before after : List Row) :
    Prop where
  repeated : ∀ earlier ∈ before, ∀ later ∈ after,
    later.uri = earlier.uri ∧ later.vitaltype = earlier.vitaltype
  /-- No name is new. -/
  names : ∀ later ∈ after, ∃ earlier ∈ before, earlier.name = later.name
  /-- A name is lost only with a property that was left out, where nothing is enforced. -/
  lost : ∀ earlier ∈ before, (∃ later ∈ after, later.name = earlier.name) ∨
    options.enforcement = .lenient ∧ Vocabulary.isStructural earlier.name = false ∧
      ∀ entry ∈ read.properties.entries, versionless entry.1 ≠ earlier.name
  /-- No type is new or lost, and none is repeated. -/
  types : Row.uris Vocabulary.types after = (Row.uris Vocabulary.types before).eraseDups
  /-- Under every other name are the URIs that were there; the ontology is up to the registry. -/
  uris : ∀ later ∈ after, later.name ≠ Vocabulary.types → later.name ≠ Vocabulary.hasOntologyIri →
    Row.uris later.name after = Row.uris later.name before

section Rows

variable {registry : Registry} {object : GraphObject} {ontology : OntologyDef} {rows : List Row}
  (made : (object.entries ontology).flatMap (fun entry =>
    rowsOfEntry registry object entry.1 entry.2) = rows)
include made

theorem uris_of_isStructural {name : String} {held : PropertyValue}
    (listed : (name, held) ∈ object.structuralEntries ontology) :
    Row.uris name rows = held.values.filterMap fun value => value.uri?.map versionless := by
  rw [Row.uris, named_of_isStructural made listed, uris_rowsOfEntry]

theorem uris_vitaltype : Row.uris Vocabulary.vitaltype rows = [versionless object.vitaltype] := by
  have listed : (Vocabulary.vitaltype, .single (.uri object.vitaltype)) ∈
      object.structuralEntries ontology := by simp [structuralEntries, describing]
  rw [uris_of_isStructural made listed]
  rfl

theorem uris_types : Row.uris Vocabulary.types rows = object.types.map versionless := by
  have listed : (Vocabulary.types, .multi (object.types.map .uri)) ∈
      object.structuralEntries ontology := by simp [structuralEntries, describing]
  rw [uris_of_isStructural made listed, PropertyValue.values, List.filterMap_map]
  exact List.filterMap_eq_map_iff_forall_eq_some.2 fun _ _ => rfl

theorem uris_uriProperty : Row.uris Vocabulary.uriProperty rows = [versionless object.uri] := by
  have listed : (Vocabulary.uriProperty, .single (.uri object.uri)) ∈
      object.structuralEntries ontology := by simp [structuralEntries, describing]
  rw [uris_of_isStructural made listed]
  rfl

theorem uris_hasOntologyIri :
    Row.uris Vocabulary.hasOntologyIri rows = [versionless ontology.uri] := by
  have listed : (Vocabulary.hasOntologyIri, .single (.uri ontology.uri)) ∈
      object.structuralEntries ontology := by simp [structuralEntries, OntologyDef.describing]
  rw [uris_of_isStructural made listed]
  rfl

theorem uris_hasVersionIri : Row.uris Vocabulary.hasVersionIri rows = [] := by
  have listed : (Vocabulary.hasVersionIri, .single (.string ontology.version.text)) ∈
      object.structuralEntries ontology := by simp [structuralEntries, OntologyDef.describing]
  rw [uris_of_isStructural made listed]
  rfl

/-- Every structural property is written. -/
theorem exists_structural_row (typed : object.types ≠ []) {name : String}
    (structural : Vocabulary.isStructural name = true) : ∃ row ∈ rows, row.name = name := by
  have key : name ∈ (object.structuralEntries ontology).map (·.1) := by
    rw [keys_structuralEntries]
    exact List.contains_iff_mem.1 structural
  obtain ⟨⟨other, held⟩, listed, same⟩ := List.mem_map.1 key
  obtain rfl : other = name := same
  have filled : held.values ≠ [] := by
    simp only [structuralEntries, describing, OntologyDef.describing, List.cons_append,
      List.nil_append, List.mem_cons, Prod.mk.injEq, List.not_mem_nil, or_false] at listed
    rcases listed with ⟨-, rfl⟩ | ⟨-, rfl⟩ | ⟨-, rfl⟩ | ⟨-, rfl⟩ | ⟨-, rfl⟩
    · exact List.cons_ne_nil _ _
    · simpa [PropertyValue.values] using typed
    all_goals exact List.cons_ne_nil _ _
  obtain ⟨value, member⟩ := List.exists_mem_of_ne_nil _ filled
  refine ⟨rowOfValue registry object other held value, Row.mem_named.1 ?_⟩
  rw [named_of_isStructural made listed]
  exact mem_rowsOfEntry.2 ⟨value, member, rfl⟩

end Rows

section Resaved

variable {registry : Registry} {read : GraphObject} {ontology : OntologyDef} {scope : ReadingScope}
  {uri : String} {rows again : List Row} {grouped : Dictionary PropertyRows}
  (undone : ∀ older ∈ scope.namespaces, AreUndone older)
  (stands : PropertyRows.Stands uri rows grouped) (current : ∀ row ∈ rows, row.IsCurrent)
  (properties : read.properties = grouped.entries.foldl scope.put ∅)
  (made : (read.entries ontology).flatMap (fun entry =>
    rowsOfEntry registry read entry.1 entry.2) = again)
include undone stands current properties made

/-- Under a name that was stored is written again what is held of it. -/
theorem named_resaved {name : String} {together : PropertyRows}
    (plain : Vocabulary.isStructural name = false) (listed : (name, together) ∈ grouped.entries) :
    Row.named name again = match scope.held? name together with
      | none => []
      | some held =>
        rowsOfEntry registry read (ReadingScope.readUri scope.namespaces name) held := by
  rw [named_of_plain made plain, properties,
    ReadingScope.filter_read undone stands current listed]
  cases scope.held? name together with
  | none => rfl
  | some held => exact List.flatMap_singleton ..

/-- A name that is written again was stored. -/
theorem exists_held_of_resaved {row : Row} (plain : Vocabulary.isStructural row.name = false)
    (listed : row ∈ again) :
    ∃ together held, (row.name, together) ∈ grouped.entries ∧
      scope.held? row.name together = some held := by
  obtain ⟨entry, own, value, -, rfl⟩ := (mem_rows_of_plain made plain).1 listed
  rw [properties] at own
  obtain ⟨together, stored, -, held⟩ :=
    ReadingScope.exists_grouped_of_read undone stands current own
  exact ⟨together, entry.2, stored, held⟩

theorem uris_resaved {row : Row} (plain : Vocabulary.isStructural row.name = false)
    (listed : row ∈ again) : Row.uris row.name again = Row.uris row.name rows := by
  obtain ⟨together, held, stored, reads⟩ :=
    exists_held_of_resaved undone stands current properties made plain listed
  rw [Row.uris, named_resaved undone stands current properties made plain stored, reads,
    uris_rowsOfEntry, ReadingScope.uris_of_held undone stands current stored reads]

/-- A stored name is written again, unless nothing is enforced and its property is left out. -/
theorem resaved_or_lost (reads : ∀ entry ∈ grouped.entries, scope.Reads entry.1 entry.2) {row : Row}
    (plain : Vocabulary.isStructural row.name = false) (listed : row ∈ rows) :
    (∃ later ∈ again, later.name = row.name) ∨ scope.options.enforcement = .lenient ∧
      ∀ entry ∈ read.properties.entries, versionless entry.1 ≠ row.name := by
  obtain ⟨together, stored⟩ := stands.exists_grouped listed
  have filled := stands.values_ne_nil stored
  have named := named_resaved undone stands current properties made plain stored
  cases held : scope.held? row.name together with
  | some value =>
    left
    rw [held] at named
    have values := ReadingScope.values_of_held stands (Dictionary.find?_eq_some.2 stored) held
    obtain ⟨one, member⟩ := List.exists_mem_of_ne_nil value.values
      (by simpa [values] using filled)
    refine ⟨rowOfValue registry read (ReadingScope.readUri scope.namespaces row.name) value one,
      Row.mem_named.1 ?_⟩
    rw [named]
    exact mem_rowsOfEntry.2 ⟨one, member, rfl⟩
  | none =>
    right
    refine ⟨ReadingScope.lenient_of_held?_eq_none (reads _ stored) plain filled held, ?_⟩
    intro entry own same
    have chosen := ReadingScope.filter_read undone stands current stored
    rw [held, ← properties, Option.map_none, Option.toList_none, List.filter_eq_nil_iff] at chosen
    exact chosen entry own (beq_iff_eq.2 same)

end Resaved

/-- What an object that was read has of the one that was written: its names without versions. -/
structure Resembles (read object : GraphObject) : Prop where
  uri : read.uri = object.uri
  vitaltype : versionless read.vitaltype = versionless object.vitaltype
  first : read.types.head? = some read.vitaltype
  types : read.types.map versionless = (object.types.map versionless).eraseDups

/-- The rows of an object that one registry wrote are read with another one as an object that
resembles it, each stored property under the name that it has there. -/
theorem exists_reading {writer registry : Registry} {object : GraphObject} {rows : List Row}
    {options : ReadOptions} {decoded : DecodedObject} (plain : registry.HasPlainDomains)
    (written : object.toRows writer = .ok rows) (current : ∀ row ∈ rows, row.IsCurrent)
    (read : DecodedObject.ofRows registry options rows = .ok (some decoded)) :
    decoded.object.Resembles object ∧ ∃ (scope : ReadingScope) (grouped : Dictionary PropertyRows),
      scope.options = options ∧ (∀ older ∈ scope.namespaces, AreUndone older) ∧
      PropertyRows.Stands object.uri rows grouped ∧
      (∀ entry ∈ grouped.entries, scope.Reads entry.1 entry.2) ∧
      decoded.object.properties = grouped.entries.foldl scope.put ∅ := by
  obtain ⟨valid, ontology, -, made⟩ := toRows_eq_ok.1 written
  obtain ⟨grouped, namespaces, stands, reconciled, -, reads, rfl⟩ := (ofRows_written written).1 read
  have undone := ReadingScope.areUndone_of_reconcile plain reconciled
  have types : ∀ type ∈ object.types.map versionless, versionless type = type := by
    intro type listed
    apply Row.versionless_of_mem_uris current
    rwa [uris_types made]
  -- The class is the first type that is stored, so it is not listed again.
  obtain ⟨others, split⟩ := List.head?_eq_some_iff.1 (head?_types_of_validate valid)
  have listed : ReadingScope.typesOf (ReadingScope.readUri namespaces (versionless object.vitaltype))
        (object.types.map fun type => ReadingScope.readUri namespaces (versionless type)) =
      ((object.types.map versionless).map (ReadingScope.readUri namespaces)).eraseDups := by
    rw [List.map_map, split, List.map_cons, ReadingScope.typesOf_cons]
    rfl
  refine ⟨⟨rfl, ?_, (ReadingScope.typesOf_spec _ _).1, ?_⟩, _, grouped, rfl, undone, stands, reads,
    rfl⟩
  · exact ReadingScope.versionless_readUri undone (types _ (by simp [split]))
  · exact (congrArg (List.map versionless) listed).trans (Lists.map_eraseDups_of_undone
      fun type listed => ReadingScope.versionless_readUri undone (types type listed))

section Resembles

variable {registry : Registry} {read object : GraphObject} (alike : read.Resembles object)
include alike

theorem Resembles.ontology? : read.ontology? registry = object.ontology? registry := by
  rw [GraphObject.ontology?, alike.vitaltype, GraphObject.ontology?]

/-- The object can be written if its class is registered together with its ontology. -/
theorem Resembles.exists_toRows_iff (valid : object.validate = .ok ()) :
    (∃ rows, read.toRows registry = .ok rows) ↔
      Text.allBlank read.vitaltype = false ∧ (object.ontology? registry).isSome = true := by
  have named : Text.allBlank read.uri = false := alike.uri ▸ (validate_eq_ok.1 valid).1
  have accepted : read.validate = .ok () ↔ Text.allBlank read.vitaltype = false := by
    rw [validate_eq_ok, and_iff_right named, and_iff_left alike.first]
  rw [← accepted, ← alike.ontology?, Option.isSome_iff_exists]
  constructor
  · intro written
    obtain ⟨_, valid, ontology, known, -⟩ := written.imp fun _ => toRows_eq_ok.1
    exact ⟨valid, ontology, known⟩
  · intro stated
    obtain ⟨valid, ontology, known⟩ := stated
    exact ⟨_, toRows_eq_ok.2 ⟨valid, ontology, known, rfl⟩⟩

/-- Under structural names are the URIs that were there, types and the ontology apart. -/
theorem Resembles.uris_structural {writer : Registry} {ontology known : OntologyDef}
    {rows again : List Row}
    (made : (object.entries ontology).flatMap (fun entry =>
      rowsOfEntry writer object entry.1 entry.2) = rows)
    (resaved : (read.entries known).flatMap (fun entry =>
      rowsOfEntry registry read entry.1 entry.2) = again)
    {name : String} (structural : Vocabulary.isStructural name = true)
    (type : name ≠ Vocabulary.types) (iri : name ≠ Vocabulary.hasOntologyIri) :
    Row.uris name again = Row.uris name rows := by
  have listed := List.contains_iff_mem.1 structural
  simp only [Vocabulary.structural, List.mem_cons, List.not_mem_nil, or_false] at listed
  rcases listed with rfl | rfl | rfl | rfl | rfl
  · rw [uris_vitaltype resaved, uris_vitaltype made, alike.vitaltype]
  · exact absurd rfl type
  · rw [uris_uriProperty resaved, uris_uriProperty made, alike.uri]
  · exact absurd rfl iri
  · rw [uris_hasVersionIri resaved, uris_hasVersionIri made]

end Resembles

section Saved

variable {writer registry : Registry} {object : GraphObject} {rows again : List Row}
  {options : ReadOptions} {decoded : DecodedObject} (plain : registry.HasPlainDomains)
  (written : object.toRows writer = .ok rows) (current : ∀ row ∈ rows, row.IsCurrent)
  (read : DecodedObject.ofRows registry options rows = .ok (some decoded))
  (resaved : decoded.object.toRows registry = .ok again)
include plain written current read resaved

/-- An object that is read and saved again gets the names, types and URIs with which it was
stored. -/
theorem keepsVocabulary_of_resaved : KeepsVocabulary options decoded.object rows again := by
  obtain ⟨valid, ontology, -, made⟩ := toRows_eq_ok.1 written
  obtain ⟨alike, scope, grouped, rfl, undone, stands, reads, properties⟩ :=
    exists_reading plain written current read
  obtain ⟨valid', ontology', -, made'⟩ := toRows_eq_ok.1 resaved
  refine ⟨?repeated, ?names, ?lost, ?types, ?uris⟩
  case repeated =>
    intro earlier before later after
    obtain ⟨uri, vitaltype, -⟩ := repeated_of_mem_toRows written before
    obtain ⟨uri', vitaltype', -⟩ := repeated_of_mem_toRows resaved after
    exact ⟨uri'.trans (alike.uri.trans uri.symm),
      vitaltype'.trans (alike.vitaltype.trans vitaltype.symm)⟩
  case names =>
    intro later after
    cases plain : Vocabulary.isStructural later.name with
    | true => exact exists_structural_row made (types_ne_nil_of_validate valid) plain
    | false =>
      obtain ⟨together, held, stored, -⟩ :=
        exists_held_of_resaved undone stands current properties made' plain after
      obtain ⟨row, listed, same, -⟩ := stands.exists_row stored
      exact ⟨row, listed, same⟩
  case lost =>
    intro earlier before
    cases plain : Vocabulary.isStructural earlier.name with
    | true => exact .inl (exists_structural_row made' (types_ne_nil_of_validate valid') plain)
    | false =>
      exact (resaved_or_lost undone stands current properties made' reads plain
        before).imp_right fun lost => ⟨lost.1, rfl, lost.2⟩
  case types => rw [uris_types made', uris_types made, alike.types]
  case uris =>
    intro later after type iri
    cases plain : Vocabulary.isStructural later.name with
    | true => exact alike.uris_structural made made' plain type iri
    | false => exact uris_resaved undone stands current properties made' plain after

/-- The ontology that is stored is that of the registry with which the object is saved. -/
theorem uris_hasOntologyIri_iff :
    Row.uris Vocabulary.hasOntologyIri again = Row.uris Vocabulary.hasOntologyIri rows ↔
      (object.ontology? registry).map (versionless ·.uri) =
        (object.ontology? writer).map (versionless ·.uri) := by
  obtain ⟨-, ontology, described, made⟩ := toRows_eq_ok.1 written
  obtain ⟨-, ontology', described', made'⟩ := toRows_eq_ok.1 resaved
  have alike := (exists_reading plain written current read).1
  rw [uris_hasOntologyIri made', uris_hasOntologyIri made, ← alike.ontology?, described', described]
  simp

end Saved

end GraphObject

namespace DecodedObject

/-- Moving names to an older vocabulary is undone by taking the version off, so an object that is
read in an older vocabulary and saved again gets the names, types and URIs with which it was
stored. It can be saved if its class is registered together with its ontology. -/
theorem resaving_keeps_vocabulary {registry : Registry} (plain : registry.HasPlainNames) :
    (∀ domain version namespaces, registry.olderNamespaces? domain version = some namespaces →
      ∀ uri, versionless uri = uri → versionless (toOlder namespaces.entries uri) = uri) ∧
    ∀ (writer : Registry) (object : GraphObject) (rows : List Row) (options : ReadOptions)
      (decoded : DecodedObject), object.toRows writer = .ok rows →
      (∀ row ∈ rows, row.IsCurrent) → ofRows registry options rows = .ok (some decoded) →
      ((∃ again, decoded.object.toRows registry = .ok again) ↔
        Text.allBlank decoded.object.vitaltype = false ∧
          (object.ontology? registry).isSome = true) ∧
      ∀ again, decoded.object.toRows registry = .ok again →
        GraphObject.KeepsVocabulary options decoded.object rows again ∧
        (Row.uris Vocabulary.hasOntologyIri again = Row.uris Vocabulary.hasOntologyIri rows ↔
          (object.ontology? registry).map (versionless ·.uri) =
            (object.ontology? writer).map (versionless ·.uri)) := by
  have domains := plain.hasPlainDomains
  refine ⟨fun domain version namespaces known uri current =>
    (domains.areUndone known).versionless_toOlder current, ?_⟩
  intro writer object rows options decoded written current read
  have alike := (GraphObject.exists_reading domains written current read).1
  refine ⟨alike.exists_toRows_iff (GraphObject.toRows_eq_ok.1 written).1, fun again resaved => ?_⟩
  exact ⟨GraphObject.keepsVocabulary_of_resaved domains written current read resaved,
    GraphObject.uris_hasOntologyIri_iff domains written current read resaved⟩

/-- An object with a property of an imported ontology, written under the version that is now older. -/
theorem resaving_keeps_vocabulary_imported :
    let newest : ClassDef := ⟨"urn:app#C", none, "urn:app", false⟩
    let writer := ((Registry.core.addOntology ⟨"urn:app", ⟨1, 0, 0⟩, none, []⟩).addClass
      newest).addProperty ⟨"urn:base#p", .uri, true, none, "urn:base"⟩
    let registry := ((((Registry.core.addOntology ⟨"urn:app", ⟨2, 0, 0⟩, none, []⟩).addOlder
      ⟨"urn:app", ⟨1, 0, 0⟩, none, ["urn:base_v0_5_0"]⟩).addClass newest).addClass
        ⟨"urn:app_v1_0_0#C", none, "urn:app", false⟩).addProperty
          ⟨"urn:base_v0_5_0#p", .uri, true, none, "urn:base"⟩
    let object : GraphObject := ⟨"urn:a", "urn:app#C", ["urn:app#C", "urn:base#B"],
      (∅ : Dictionary PropertyValue).insert "urn:base#p"
        (.multi [.uri "urn:base#x", .uri "urn:other"])⟩
    let row (name : String) (value : Value) (multi : Bool) : Row :=
      ⟨"urn:a", name, "urn:app#C", false, none, none, value, multi, none⟩
    let rows := [row Vocabulary.vitaltype (.uri "urn:app#C") false,
      row Vocabulary.types (.uri "urn:app#C") true, row Vocabulary.types (.uri "urn:base#B") true,
      row Vocabulary.uriProperty (.uri "urn:a") false,
      row "urn:base#p" (.uri "urn:base#x") true, row "urn:base#p" (.uri "urn:other") true,
      row Vocabulary.hasOntologyIri (.uri "urn:app") false,
      row Vocabulary.hasVersionIri (.string "1.0.0") false]
    let options : ReadOptions := ⟨.strict, false, false, .inline⟩
    let older : GraphObject :=
      ⟨"urn:a", "urn:app_v1_0_0#C", ["urn:app_v1_0_0#C", "urn:base_v0_5_0#B"],
        (∅ : Dictionary PropertyValue).insert "urn:base_v0_5_0#p"
          (.multi [.uri "urn:base_v0_5_0#x", .uri "urn:other"])⟩
    registry.HasPlainNames ∧ object.toRows writer = .ok rows ∧ (∀ row ∈ rows, row.IsCurrent) ∧
      ofRows registry options rows = .ok (some ⟨older, []⟩) ∧
      ∃ again, older.toRows registry = .ok again ∧
        GraphObject.KeepsVocabulary options older rows again ∧
        Row.uris Vocabulary.hasOntologyIri again = ["urn:app"] := by
  intro newest writer registry object row rows options older
  have plain : registry.HasPlainNames := by decide +kernel
  have written : object.toRows writer = .ok rows := eq_ok_of_toOption (by decide +kernel)
  have current : ∀ row ∈ rows, row.IsCurrent := by decide +kernel
  have read : ofRows registry options rows = .ok (some ⟨older, []⟩) :=
    eq_ok_of_toOption (by decide +kernel)
  obtain ⟨saved, kept⟩ := (resaving_keeps_vocabulary plain).2 _ _ _ _ _ written current read
  obtain ⟨again, resaved⟩ := saved.2 ⟨by decide +kernel, by decide +kernel⟩
  obtain ⟨keeps, ontology⟩ := kept again resaved
  exact ⟨plain, written, current, read, again, resaved, keeps,
    (ontology.2 (by decide +kernel)).trans (by decide +kernel)⟩

end DecodedObject

end GraphSegments
