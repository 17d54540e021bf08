import GraphSegments.Proofs.Table.Recovery

/-!
Objects in the current vocabulary, whose properties are all allowed, are read back from their rows
as they were written, whatever the lengths of their texts.
-/

namespace GraphSegments
open Results

namespace ReadingScope

variable {scope : ReadingScope}

/-- Where texts come with their rows, none is asked for later. -/
theorem pending_of_inline (mode : scope.options.overflow = .inline)
    (entry : String × PropertyRows) : scope.pending entry = [] := by
  unfold pending
  cases scope.held? entry.1 entry.2 with
  | none => rfl
  | some held =>
    refine List.filterMap_eq_nil_iff.2 fun stored _ => ?_
    simp [lacking?, mode]

/-- Types are taken as they are listed where none is listed twice. -/
theorem typesOf_eq_self {vitaltype : String} {types : List String} (distinct : types.Nodup)
    (first : types.head? = some vitaltype) : typesOf vitaltype types = types := by
  obtain ⟨others, rfl⟩ := List.head?_eq_some_iff.1 first
  rw [typesOf_cons, Lists.eraseDups_of_nodup distinct]

end ReadingScope

namespace GraphObject

/-- Whether an object may hold a property that is registered with a cardinality, or not at all. -/
def Allows (registry : Registry) (external : Bool) (object : GraphObject) (name : String)
    (held : PropertyValue) : Prop :=
  match registry.property? name with
  | some definition => definition.multiValued = true → held.isMulti = true
  | none => external = true ∨ registry.isContainer object.vitaltype = true

/-- An object that loses nothing when it is written and read with a registry. -/
structure IsPreserved (registry : Registry) (external : Bool) (object : GraphObject) : Prop where
  vitaltype : versionless object.vitaltype = object.vitaltype
  types : ∀ type ∈ object.types, versionless type = type
  distinct : object.types.Nodup
  names : ∀ entry ∈ object.properties.entries, versionless entry.1 = entry.1
  plain : ∀ entry ∈ object.properties.entries, Vocabulary.isStructural entry.1 = false
  allowed : ∀ entry ∈ object.properties.entries, object.Allows registry external entry.1 entry.2
  filled : ∀ entry ∈ object.properties.entries, entry.2 ≠ .multi []
  uris : ∀ entry ∈ object.properties.entries, ∀ uri, .uri uri ∈ entry.2.values →
    versionless uri = uri
  unmarked : ∀ entry ∈ object.properties.entries, ∀ value ∈ entry.2.values,
    Overflow.isMarked value = false
  ontology : ∀ ontology ∈ object.ontology? registry, versionless ontology.uri = ontology.uri ∧
    registry.older? ontology.uri ontology.version = none

/-- The ontology of an object is the one that is loaded under its URI. -/
theorem ontology?_uri {registry : Registry} {object : GraphObject} {ontology : OntologyDef}
    (described : object.ontology? registry = some ontology) :
    registry.ontology? ontology.uri = some ontology := by
  obtain ⟨definition, -, found⟩ := Option.bind_eq_some_iff.1 described
  have same : ontology.uri = definition.ontology := by simpa using List.find?_some found
  rw [same]
  exact found

section Preserved

variable {registry : Registry} {object : GraphObject} {ontology : OntologyDef} {rows : List Row}
  {options : ReadOptions} {grouped : Dictionary PropertyRows}
  (preserved : object.IsPreserved registry options.external)
include preserved

theorem IsPreserved.values_ne_nil {name : String} {held : PropertyValue}
    (listed : (name, held) ∈ object.properties.entries) : held.values ≠ [] := by
  have filled := preserved.filled _ listed
  cases held with
  | single value => exact List.cons_ne_nil _ _
  | multi values =>
    intro empty
    exact filled (congrArg PropertyValue.multi empty)

/-- The object is read in the current vocabulary. -/
theorem IsPreserved.readNamespaces (described : object.ontology? registry = some ontology) :
    GraphObject.readNamespaces registry ontology = none := by
  obtain ⟨current, absent⟩ := preserved.ontology ontology described
  rw [GraphObject.readNamespaces, current, Registry.olderNamespaces?, absent]
  rfl

theorem IsPreserved.readClass (described : object.ontology? registry = some ontology) :
    object.readClass registry ontology = object.vitaltype := by
  rw [GraphObject.readClass, preserved.readNamespaces described]
  exact preserved.vitaltype

theorem IsPreserved.accepts (described : object.ontology? registry = some ontology)
    (enforcement : Enforcement) :
    registry.Accepts enforcement (versionless ontology.uri) ontology.version := by
  intro _ _ loaded found
  rw [(preserved.ontology ontology described).1, ontology?_uri described] at found
  obtain rfl := Option.some.inj found
  exact .inl rfl

/-- Every property has rows of its own. -/
theorem IsPreserved.find?_grouped
    (made : (object.entries ontology).flatMap (fun entry =>
      rowsOfEntry registry object entry.1 entry.2) = rows)
    (stands : PropertyRows.Stands object.uri rows grouped) {name : String}
    (plain : Vocabulary.isStructural name = false) :
    grouped.find? name = (object.get? name).map (PropertyRows.ofHeld registry name) := by
  have together : (object.properties.entries.filter fun entry => versionless entry.1 == name) =
      object.properties.entries.filter (·.1 == name) := by
    apply List.filter_congr
    intro entry listed
    rw [preserved.names entry listed]
  rw [stands.found, named_of_plain made plain, together]
  cases found : object.get? name with
  | none =>
    have absent : object.properties.entries.filter (·.1 == name) = [] := by
      rw [List.filter_eq_nil_iff]
      intro entry listed same
      have same : entry.1 = name := by simpa using same
      have listed : (name, entry.2) ∈ object.properties.entries := same ▸ listed
      exact absurd (found.symm.trans (Dictionary.find?_eq_some.2 listed)) (by simp)
    rw [absent]
    rfl
  | some held =>
    have listed := Dictionary.find?_eq_some.1 found
    rw [Dictionary.filter_eq_singleton object.properties.nodup_keys listed, List.flatMap_singleton,
      PropertyRows.ofRows?_rowsOfEntry (preserved.values_ne_nil listed), preserved.names _ listed]
    rfl

section Read

variable (described : object.ontology? registry = some ontology) {name : String}
  {held : PropertyValue} (listed : (name, held) ∈ object.properties.entries)
include described listed

/-- A property is read with the cardinality with which the object holds it. -/
theorem IsPreserved.cardinality? :
    (object.readScope registry options ontology).cardinality? name (.ofHeld registry name held) =
      some held.isMulti := by
  have allowed := preserved.allowed _ listed
  unfold Allows at allowed
  unfold ReadingScope.cardinality?
  simp only [readScope, ReadingScope.ofClass, preserved.readClass described]
  cases registered : registry.property? name with
  | some definition =>
    rw [registered] at allowed
    cases multi : definition.multiValued with
    | true => simp [multi, allowed multi]
    | false => simp [multi, PropertyRows.ofHeld]
  | none =>
    rw [registered] at allowed
    simp [PropertyRows.ofHeld, registered, allowed]

omit listed in
theorem IsPreserved.readUri (uri : String) :
    ReadingScope.readUri (object.readScope registry options ontology).namespaces uri = uri := by
  simp only [readScope, ReadingScope.ofClass, preserved.readNamespaces described]
  rfl

theorem IsPreserved.readValue (mode : options.overflow = .inline) {value : Value}
    (member : value ∈ held.values) :
    (object.readScope registry options ontology).readValue value.written = value := by
  have current : storedValue value = value := by
    cases value with
    | uri uri => exact congrArg Value.uri (preserved.uris _ listed uri member)
    | _ => rfl
  rw [Value.readValue_written mode (preserved.unmarked _ listed value member), current]
  cases value with
  | uri uri => exact congrArg Value.uri (preserved.readUri described uri)
  | _ => rfl

/-- A property is read as the object holds it. -/
theorem IsPreserved.held? (mode : options.overflow = .inline) :
    (object.readScope registry options ontology).held? name (.ofHeld registry name held) =
      some held := by
  have plain : Vocabulary.isStructural name = false := preserved.plain _ listed
  have values : (held.values.map Value.written).map
      (object.readScope registry options ontology).readValue = held.values := by
    rw [List.map_map]
    exact (List.map_congr_left fun value member =>
      preserved.readValue described listed mode member).trans (List.map_id _)
  unfold ReadingScope.held?
  rw [preserved.readUri described, preserved.cardinality? described listed]
  simp only [plain, Bool.false_eq_true, if_false, PropertyRows.ofHeld, values]
  cases held <;> rfl

theorem IsPreserved.reads :
    (object.readScope registry options ontology).Reads name (.ofHeld registry name held) := by
  right
  rw [preserved.readUri described, preserved.cardinality? described listed]
  intro one stored
  obtain ⟨value, member, rfl⟩ := List.mem_map.1 stored
  exact Value.canRead_written (preserved.unmarked _ listed value member)

end Read

/-- The properties of the object are found again, and nothing else. -/
theorem IsPreserved.foldl_put (described : object.ontology? registry = some ontology)
    (made : (object.entries ontology).flatMap (fun entry =>
      rowsOfEntry registry object entry.1 entry.2) = rows)
    (stands : PropertyRows.Stands object.uri rows grouped) (mode : options.overflow = .inline) :
    grouped.entries.foldl (object.readScope registry options ontology).put ∅ =
      object.properties := by
  have readUri (uri : String) :
      ReadingScope.readUri (object.readScope registry options ontology).namespaces uri = uri :=
    preserved.readUri described uri
  have apart : (grouped.entries.map fun entry => ReadingScope.readUri
      (object.readScope registry options ontology).namespaces entry.1).Nodup := by
    simp only [readUri]
    exact grouped.nodup_keys
  apply Dictionary.ext
  intro name
  cases found : object.properties.find? name with
  | some held =>
    have listed := Dictionary.find?_eq_some.1 found
    have there := preserved.find?_grouped made stands (preserved.plain _ listed)
    rw [get?, found] at there
    rw [← readUri name]
    exact ReadingScope.find?_foldl_put ∅ apart (Dictionary.find?_eq_some.1 there)
      (preserved.held? described listed mode)
  | none =>
    rw [ReadingScope.find?_foldl_put_of_none, Dictionary.find?_empty]
    intro entry listed same
    rw [readUri] at same
    by_cases plain : Vocabulary.isStructural name = false
    · have there := preserved.find?_grouped made stands plain
      rw [get?, found, Option.map_none] at there
      have listed : (name, entry.2) ∈ grouped.entries := same ▸ listed
      exact absurd (there.symm.trans (Dictionary.find?_eq_some.2 listed)) (by simp)
    · simp [ReadingScope.held?, same, plain]

end Preserved

/-- Objects in the current vocabulary that hold nothing but allowed properties are read back from
their rows as they were written. -/
theorem ofRows_toRows_self {registry : Registry} {options : ReadOptions} {object : GraphObject}
    {rows : List Row} (mode : options.overflow = .inline)
    (preserved : object.IsPreserved registry options.external)
    (written : object.toRows registry = .ok rows) :
    DecodedObject.ofRows registry options rows = .ok (some ⟨object, []⟩) := by
  obtain ⟨valid, ontology, described, made⟩ := toRows_eq_ok.1 written
  have coherent := (coherent_toRows_iff written).2 (isUnambiguous_of_current preserved.names)
  obtain ⟨grouped, grouping⟩ :=
    PropertyRows.exists_group (fun row member => (repeated_of_mem_toRows written member).1) coherent
  have stands := PropertyRows.group_eq_ok.1 grouping
  refine (ofRows_toRows written described).2
    ⟨grouped, stands, preserved.accepts described _, ?_, ?_, ?_⟩
  · rw [preserved.readClass described, ← preserved.vitaltype]
    exact (exists_ontology_of_toRows written).1
  · intro entry listed
    by_cases plain : Vocabulary.isStructural entry.1 = false
    · have found := Dictionary.find?_eq_some.2 listed
      rw [preserved.find?_grouped made stands plain, Option.map_eq_some_iff] at found
      obtain ⟨held, found, rows⟩ := found
      rw [← rows]
      exact preserved.reads described (Dictionary.find?_eq_some.1 found)
    · exact .inl (by simpa using plain)
  · have types : (object.readStart registry ontology).object.types = object.types := by
      have current (type : String) (listed : type ∈ object.types) :
          ReadingScope.readUri (readNamespaces registry ontology) (versionless type) = type := by
        rw [preserved.readNamespaces described, preserved.types type listed]
        rfl
      simp only [readStart, preserved.readClass described]
      rw [List.map_congr_left current, List.map_id']
      exact ReadingScope.typesOf_eq_self preserved.distinct (head?_types_of_validate valid)
    have properties := preserved.foldl_put described made stands mode
    have deferred : grouped.entries.flatMap (object.readScope registry options ontology).pending =
        [] := List.flatMap_eq_nil_iff.2 fun entry _ =>
      ReadingScope.pending_of_inline mode entry
    calc
      _ = DecodedObject.mk
          ⟨object.uri, object.readClass registry ontology,
            (object.readStart registry ontology).object.types,
            grouped.entries.foldl (object.readScope registry options ontology).put ∅⟩
          ([] ++ grouped.entries.flatMap (object.readScope registry options ontology).pending) :=
        rfl
      _ = ⟨object, []⟩ := by rw [preserved.readClass described, types, properties, deferred]; rfl

/-- A text that does not fit into its column. -/
def longBody : String := String.ofList (List.replicate 6000 'x')

/-- A message in a channel with a long body, among short ones of other kinds. -/
def longMessage : GraphObject where
  uri := "urn:message"
  vitaltype := Vocabulary.messageClass
  types := [Vocabulary.messageClass, Vocabulary.nodeClass]
  properties :=
    ⟨[(Vocabulary.hasChannel, .single (.uri "urn:channel")),
      (Vocabulary.hasTimestamp, .single (.long 7)),
      ("urn:body", .multi [.string longBody, .uri "urn:image", .other "short", .truth .mu])],
      by decide⟩

theorem ofRows_toRows_self_longMessage :
    ∃ rows, longMessage.toRows .core = .ok rows ∧ longMessage.IsPreserved .core true ∧
      DecodedObject.ofRows .core ⟨.strict, true, false, .inline⟩ rows =
        .ok (some ⟨longMessage, []⟩) := by
  have body : Overflow.isMarked (.string longBody) = false := by
    have length (count : Nat) : (String.ofList (List.replicate count 'x')).length = count := by
      rw [String.length_ofList, List.length_replicate]
    have longer : longBody ≠ Overflow.marker := by
      intro same
      have shorter : 6000 = Overflow.marker.length := (length 6000).symm.trans (same ▸ rfl)
      exact absurd shorter (by decide)
    simpa [Overflow.isMarked] using longer
  have preserved : longMessage.IsPreserved .core true :=
    { vitaltype := by decide
      types := by decide
      distinct := by decide
      names := by simp only [longMessage, List.forall_mem_cons]; decide
      plain := by simp only [longMessage, List.forall_mem_cons]; decide
      allowed := by
        simp only [longMessage, List.forall_mem_cons]
        exact ⟨fun multi => absurd multi (by decide), fun multi => absurd multi (by decide), .inl rfl,
          by simp⟩
      filled := by simp [longMessage]
      uris := by
        simp only [longMessage, List.forall_mem_cons]
        simp only [PropertyValue.values, List.mem_cons, List.not_mem_nil, or_false,
          Value.uri.injEq, reduceCtorEq, false_or]
        exact ⟨fun _ same => same ▸ by decide, by simp, fun _ same => same ▸ by decide, by simp⟩
      unmarked := by
        simp only [longMessage, List.forall_mem_cons, PropertyValue.values]
        exact ⟨⟨rfl, by simp⟩, ⟨rfl, by simp⟩, ⟨body, rfl, by decide, rfl, by simp⟩, by simp⟩
      ontology := by
        intro ontology described
        obtain rfl := Option.some.inj (described : some _ = some ontology)
        decide }
  have written : longMessage.toRows .core = .ok _ :=
    toRows_eq_ok.2 ⟨by decide, _, rfl, rfl⟩
  exact ⟨_, written, preserved, ofRows_toRows_self rfl preserved written⟩

end GraphObject

end GraphSegments
