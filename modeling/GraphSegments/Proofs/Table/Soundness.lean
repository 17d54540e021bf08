import GraphSegments.Proofs.Ontology.Namespaces
import GraphSegments.Proofs.Table.RoundTrip

/-!
What every object is like that is read from rows, whatever rows they are: rows of one object, of a
registered class, with properties that are registered or allowed and of their cardinality, also
where the object is read in the namespaces of an older version.
-/

namespace GraphSegments
open Results

/-- The namespaces in which an object is read are those of an older version. -/
theorem areDated_of_reconcile {registry : Registry} {enforcement : Enforcement} {uri : String}
    {grouped : Dictionary PropertyRows} {namespaces : Dictionary String}
    (reconciled : reconcile registry enforcement uri grouped = .ok (some namespaces)) :
    AreDated namespaces := by
  obtain ⟨_, _, loaded⟩ := exists_loaded_of_reconcile reconciled
  exact Registry.areDated_olderNamespaces? loaded

namespace ReadingScope

/-- A name that has no meaning of its own gets none where it is moved to an older namespace. -/
theorem isStructural_readUri {registry : Registry} {enforcement : Enforcement} {uri : String}
    {grouped : Dictionary PropertyRows} {namespaces : Option (Dictionary String)}
    (reconciled : reconcile registry enforcement uri grouped = .ok namespaces) {name : String}
    (plain : Vocabulary.isStructural name = false) :
    Vocabulary.isStructural (readUri namespaces name) = false := by
  cases namespaces with
  | none => exact plain
  | some namespaces =>
    show Vocabulary.isStructural (toOlder namespaces.entries name) = false
    rcases (areDated_of_reconcile reconciled).toOlder_eq_self_or name with same | moved
    · rwa [same]
    · by_contra structural
      exact Vocabulary.not_isDated (by simpa using structural) moved

/-- Types are taken after the class, each once. -/
theorem typesOf_spec (vitaltype : String) (stored : List String) :
    (typesOf vitaltype stored).head? = some vitaltype ∧ (typesOf vitaltype stored).Nodup := by
  rw [typesOf_eq_eraseDups]
  refine ⟨?_, Lists.nodup_eraseDups _⟩
  rw [List.eraseDups_cons, List.head?_cons]

section Held

variable {scope : ReadingScope} {storedName : String} {rows : PropertyRows} {value : PropertyValue}

/-- A property has a cardinality only if it is registered or may be held all the same. -/
theorem registered_or_of_cardinality? {property : String} {multi : Bool}
    (known : scope.cardinality? property rows = some multi) :
    (scope.registry.property? property).isSome = true ∨
      (rows.external = true ∧ scope.allowExternal = true) := by
  unfold cardinality? at known
  split at known
  next definition registered => exact .inl (registered ▸ rfl)
  next =>
    split at known
    next allowed => exact .inr (by simpa using allowed)
    next => cases known

theorem registered_or_of_held (reads : scope.held? storedName rows = some value) :
    (scope.registry.property? (readUri scope.namespaces storedName)).isSome = true ∨
      (rows.external = true ∧ scope.allowExternal = true) := by
  rcases (held?_eq_some.1 reads).2 with ⟨known, -⟩ | ⟨known, -⟩
  · exact registered_or_of_cardinality? known
  · exact registered_or_of_cardinality? known

theorem multi_of_cardinality? {property : String} {multi : Bool} {definition : PropertyDef}
    (known : scope.cardinality? property rows = some multi)
    (registered : scope.registry.property? property = some definition)
    (several : definition.multiValued = true) : multi = true := by
  rw [cardinality?, registered] at known
  simpa [several] using (Option.some.inj known).symm

end Held

section Put

variable {scope : ReadingScope} {entries : List (String × PropertyRows)} {property : String}

/-- A property is found if it was there before or something is held under its name. -/
theorem isSome_find?_foldl_put {properties : Dictionary PropertyValue} :
    ((entries.foldl scope.put properties).find? property).isSome = true ↔
      (properties.find? property).isSome = true ∨ ∃ entry ∈ entries,
        readUri scope.namespaces entry.1 = property ∧
          (scope.held? entry.1 entry.2).isSome = true := by
  induction entries generalizing properties with
  | nil => simp
  | cons entry rest ih =>
    have one : ((scope.put properties entry).find? property).isSome = true ↔
        (properties.find? property).isSome = true ∨ (readUri scope.namespaces entry.1 = property ∧
          (scope.held? entry.1 entry.2).isSome = true) := by
      unfold put
      cases scope.held? entry.1 entry.2 with
      | none => simp
      | some value =>
        by_cases same : readUri scope.namespaces entry.1 = property <;> simp [same]
    rw [List.foldl_cons, ih, one, List.exists_mem_cons_iff, or_assoc]

/-- What is found was there before or is held under that name. -/
theorem exists_held_of_foldl_put {properties : Dictionary PropertyValue} {value : PropertyValue}
    (found : (entries.foldl scope.put properties).find? property = some value) :
    properties.find? property = some value ∨ ∃ entry ∈ entries,
      readUri scope.namespaces entry.1 = property ∧
        scope.held? entry.1 entry.2 = some value := by
  induction entries generalizing properties with
  | nil => exact .inl found
  | cons entry rest ih =>
    rcases ih found with here | ⟨other, later, same, held⟩
    · unfold put at here
      cases held : scope.held? entry.1 entry.2 with
      | none =>
        rw [held] at here
        exact .inl here
      | some new =>
        rw [held, Dictionary.find?_insert] at here
        split at here
        next same =>
          cases here
          exact .inr ⟨entry, List.mem_cons_self, same, held⟩
        next => exact .inl here
    · exact .inr ⟨other, List.mem_cons_of_mem entry later, same, held⟩

/-- A text that is still to be fetched belongs to a property that is held. -/
theorem held_of_mem_pending {entry : String × PropertyRows} {text : DeferredText}
    (waiting : text ∈ scope.pending entry) :
    (scope.held? entry.1 entry.2).isSome = true ∧
      text.property = readUri scope.namespaces entry.1 := by
  unfold pending at waiting
  cases held : scope.held? entry.1 entry.2 with
  | none => simp [held] at waiting
  | some value =>
    rw [held] at waiting
    obtain ⟨stored, -, lack⟩ := List.mem_filterMap.1 waiting
    unfold lacking? at lack
    split at lack
    next => exact ⟨rfl, (Option.some.inj lack) ▸ rfl⟩
    next => cases lack

end Put

section Origin

variable {scope : ReadingScope} {rows : List Row} {storedName : String} {together : PropertyRows}
  {held : PropertyValue}

/-- Whether a property is held as what rows are read as: all of their values or the first one. -/
def IsReadFrom (scope : ReadingScope) (rows : List Row) (held : PropertyValue) : Prop :=
  let values := rows.map fun row => scope.readValue (row.value, row.fullText)
  held = .multi values ∨ ∃ value ∈ values.head?, held = .single value

/-- What is held of a property is read from the rows of its stored name. -/
theorem isReadFrom_of_held (reads : scope.held? storedName together = some held)
    (values : together.values = rows.map fun row => (row.value, row.fullText)) :
    scope.IsReadFrom rows held := by
  unfold IsReadFrom
  rcases (held?_eq_some.1 reads).2 with ⟨-, rfl⟩ | ⟨-, stored, first, rfl⟩
  · left
    rw [values, List.map_map]
    rfl
  · right
    rw [values] at first
    cases rows with
    | nil => cases first
    | cons row rest =>
      obtain rfl := Option.some.inj first
      exact ⟨_, rfl, rfl⟩

/-- A property without values is not what rows are read as. -/
theorem IsReadFrom.ne_nil (read : scope.IsReadFrom rows held) (some : rows ≠ []) :
    held ≠ .multi [] := by
  rintro rfl
  rcases read with none | ⟨value, -, single⟩
  · exact some (List.map_eq_nil_iff.1 (PropertyValue.multi.inj none).symm)
  · cases single

end Origin

end ReadingScope

namespace DecodedObject

open ReadingScope

/-- An object as it is read from rows. Where it is read in the namespaces of an older version, its
class and its properties have the names of that version. -/
structure IsSound (registry : Registry) (options : ReadOptions)
    (namespaces : Option (Dictionary String)) (rows : List Row) (decoded : DecodedObject) :
    Prop where
  uris : ∀ row ∈ rows, row.uri = decoded.object.uri
  registered : (registry.class? decoded.object.vitaltype).isSome = true
  first : decoded.object.types.head? = some decoded.object.vitaltype
  distinct : decoded.object.types.Nodup
  plain : ∀ property held, decoded.object.get? property = some held →
    Vocabulary.isStructural property = false
  /-- A property is read from the rows of one stored name. It is registered, or the first of these
  rows says that no ontology defines it and such properties are allowed. -/
  origin : ∀ property held, decoded.object.get? property = some held →
    ∃ storedName row rest, readUri namespaces storedName = property ∧
      Row.named storedName rows = row :: rest ∧
      (ofClass registry options decoded.object.uri namespaces decoded.object.vitaltype).IsReadFrom
        (row :: rest) held ∧
      ((registry.property? property).isSome = true ∨ row.external = true ∧
        (options.external = true ∨ registry.isContainer decoded.object.vitaltype = true))
  several : ∀ property held, decoded.object.get? property = some held →
    ∀ definition ∈ registry.property? property, definition.multiValued = true →
      held.isMulti = true
  filled : ∀ property, decoded.object.get? property ≠ some (.multi [])
  present : ∀ text ∈ decoded.deferred, (decoded.object.get? text.property).isSome = true
  complete : options.overflow = .inline → decoded.deferred = []

variable {registry : Registry} {options : ReadOptions} {uri : String} {rows : List Row}
  {grouped : Dictionary PropertyRows} {decoded : DecodedObject}

/-- Grouped rows are read as a sound object. -/
theorem isSound_of_readGrouped (stands : PropertyRows.Stands uri rows grouped)
    (read : readGrouped registry options uri grouped = .ok (.ok decoded)) :
    decoded.object.uri = uri ∧ ∃ namespaces,
      reconcile registry options.enforcement uri grouped = .ok namespaces ∧
        decoded.IsSound registry options namespaces rows := by
  obtain ⟨storedType, typeRows, namespaces, -, -, reconciled, registered, -, rfl⟩ :=
    readGrouped_eq_ok.1 read
  refine ⟨rfl, namespaces, reconciled, ?_⟩
  have types := typesOf_spec (readUri namespaces storedType) (listedTypes namespaces typeRows)
  -- Everything said of a property is said of the stored one from which it was read.
  have source {property : String} {held : PropertyValue}
      (found : (grouped.entries.foldl (ofClass registry options uri namespaces
        (readUri namespaces storedType)).put ∅).find? property = some held) :
      ∃ storedName together, (storedName, together) ∈ grouped.entries ∧
        readUri namespaces storedName = property ∧
        (ofClass registry options uri namespaces (readUri namespaces storedType)).held?
          storedName together = some held := by
    rcases exists_held_of_foldl_put found with before | ⟨⟨storedName, together⟩, listed, same, held⟩
    · cases before
    · exact ⟨storedName, together, listed, same, held⟩
  constructor
  case uris => exact stands.uris
  case registered => exact registered
  case first => exact types.1
  case distinct => exact types.2
  case plain =>
    intro property held found
    obtain ⟨storedName, together, -, rfl, reads⟩ := source found
    exact isStructural_readUri reconciled (held?_eq_some.1 reads).1
  case origin =>
    intro property held found
    obtain ⟨storedName, together, listed, rfl, reads⟩ := source found
    obtain ⟨row, rest, named, external⟩ := stands.named_eq_cons listed
    refine ⟨storedName, row, rest, rfl, named,
      isReadFrom_of_held reads (named ▸ stands.values listed), ?_⟩
    refine (registered_or_of_held reads).imp_right fun admitted => ?_
    exact ⟨external.trans admitted.1, Bool.or_eq_true_iff.1 admitted.2⟩
  case several =>
    intro property held found definition registered several
    obtain ⟨storedName, together, -, rfl, reads⟩ := source found
    rcases (held?_eq_some.1 reads).2 with ⟨-, rfl⟩ | ⟨single, -⟩
    · rfl
    · exact absurd (multi_of_cardinality? single registered several) (by decide)
  case filled =>
    intro property found
    obtain ⟨storedName, together, listed, rfl, reads⟩ := source found
    obtain ⟨row, rest, named, -⟩ := stands.named_eq_cons listed
    exact (isReadFrom_of_held reads (stands.values listed)).ne_nil
      (named ▸ List.cons_ne_nil row rest) rfl
  case present =>
    intro text waiting
    obtain ⟨entry, listed, waiting⟩ := List.mem_flatMap.1 waiting
    obtain ⟨held, same⟩ := held_of_mem_pending waiting
    exact isSome_find?_foldl_put.2 (.inr ⟨entry, listed, same.symm, held⟩)
  case complete =>
    intro inline
    exact List.flatMap_eq_nil_iff.2 fun entry _ => pending_of_inline inline entry

/-- Whatever rows are read as an object, it is a sound one. -/
theorem isSound_of_ofRows (read : ofRows registry options rows = .ok (some decoded)) :
    ∃ grouped namespaces, PropertyRows.group decoded.object.uri rows = .ok grouped ∧
      reconcile registry options.enforcement decoded.object.uri grouped = .ok namespaces ∧
      decoded.IsSound registry options namespaces rows := by
  cases rows with
  | nil => cases read
  | cons first rest =>
    obtain ⟨grouped, made, whole⟩ := ofRows_eq_some.1 read
    obtain ⟨own, namespaces, reconciled, sound⟩ :=
      isSound_of_readGrouped (PropertyRows.group_eq_ok.1 made) whole
    rw [own]
    exact ⟨grouped, namespaces, made, reconciled, sound⟩

/-- An object in the names of an older version, with a text still to be fetched. -/
theorem isSound_of_ofRows_older :
    let registry := ((Registry.core.addOlder ⟨"urn:o", ⟨1, 0, 0⟩, none, []⟩).addClass
      ⟨"urn:o_v1_0_0#C", none, "urn:o_v1_0_0", false⟩).addProperty
        ⟨"urn:o_v1_0_0#p", .string, true, none, "urn:o_v1_0_0"⟩
    let row (name : String) (value : Value) (multi : Bool) : Row :=
      ⟨"urn:a", name, "urn:o#C", false, none, none, value, multi, none⟩
    let rows := [row Vocabulary.vitaltype (.uri "urn:o#C") false,
      row Vocabulary.types (.uri "urn:o#C") true, row Vocabulary.hasOntologyIri (.uri "urn:o") false,
      row Vocabulary.hasVersionIri (.string "1.0.0") false,
      row "urn:o#p" (.string Overflow.marker) false]
    let options : ReadOptions := ⟨.strict, false, false, .deferred⟩
    let decoded : DecodedObject :=
      ⟨⟨"urn:a", "urn:o_v1_0_0#C", ["urn:o_v1_0_0#C"],
        (∅ : Dictionary PropertyValue).insert "urn:o_v1_0_0#p" (.multi [.string Overflow.marker])⟩,
        [⟨"urn:a", "urn:o#p", "urn:o_v1_0_0#p", .string⟩]⟩
    ofRows registry options rows = .ok (some decoded) ∧
      ∃ grouped namespaces, PropertyRows.group "urn:a" rows = .ok grouped ∧
        reconcile registry .strict "urn:a" grouped = .ok namespaces ∧
        decoded.IsSound registry options namespaces rows := by
  intro registry row rows options decoded
  have read : ofRows registry options rows = .ok (some decoded) :=
    eq_ok_of_toOption (by decide +kernel)
  exact ⟨read, isSound_of_ofRows read⟩

/-- Only the first row of a property is asked whether ontologies define it, so another one may say
otherwise. -/
theorem first_row_tells_external :
    let row (name : String) (external : Bool) (value : Value) (multi : Bool) : Row :=
      ⟨"urn:a", name, Vocabulary.nodeClass, external, none, none, value, multi, none⟩
    let last := row "urn:n" false (.integer 2) true
    let rows := [row Vocabulary.vitaltype false (.uri Vocabulary.nodeClass) false,
      row Vocabulary.types false (.uri Vocabulary.nodeClass) true,
      row "urn:n" true (.integer 1) true, last]
    let node : GraphObject := ⟨"urn:a", Vocabulary.nodeClass, [Vocabulary.nodeClass],
      (∅ : Dictionary PropertyValue).insert "urn:n" (.multi [.integer 1, .integer 2])⟩
    ofRows .core ⟨.strict, true, false, .inline⟩ rows = .ok (some ⟨node, []⟩) ∧
      Registry.core.property? "urn:n" = none ∧ last ∈ rows ∧ last.external = false := by
  intro row last rows node
  have read : ofRows .core ⟨.strict, true, false, .inline⟩ rows = .ok (some ⟨node, []⟩) :=
    eq_ok_of_toOption (by decide +kernel)
  exact ⟨read, by decide +kernel, by simp [rows], rfl⟩

end DecodedObject

end GraphSegments
