import GraphSegments.Proofs.Dictionaries
import GraphSegments.Proofs.Lists
import GraphSegments.Proofs.Results
import GraphSegments.Table.Reading

/-!
Reading an object from its rows succeeds exactly if its class is registered and every property
reads. The object then holds what the properties read as, one after the other.
-/

namespace GraphSegments
open Results

/-- A marker reads only if its text comes with it, unless the text is asked for later. -/
def Overflow.Mode.CanRead (mode : Overflow.Mode) (stored : Value × Option String) : Prop :=
  mode = .inline → isMarked stored.1 = true → stored.2.isSome = true

namespace ReadingScope

/-- A value in the vocabulary in which the object is read. -/
def moved (namespaces : Option (Dictionary String)) : Value → Value
  | .uri uri => .uri (readUri namespaces uri)
  | value => value

/-- What a stored value reads as. A text still to be fetched keeps its marker. -/
def readValue (scope : ReadingScope) (stored : Value × Option String) : Value :=
  match scope.options.overflow, Overflow.isMarked stored.1, stored.2 with
  | .inline, true, some text => Overflow.ofText stored.1.kind text
  | _, _, _ => moved scope.namespaces stored.1

/-- The text that a stored value lacks. -/
def lacking? (scope : ReadingScope) (storedName property : String)
    (stored : Value × Option String) : Option DeferredText :=
  if scope.options.overflow = .deferred ∧ Overflow.isMarked stored.1 = true then
    some ⟨scope.uri, storedName, property, stored.1.kind⟩
  else none

theorem moved_eq_self {namespaces : Option (Dictionary String)} {value : Value}
    (plain : ∀ uri, value ≠ .uri uri) : moved namespaces value = value := by
  cases value with
  | uri uri => exact absurd rfl (plain uri)
  | _ => rfl

theorem ne_uri_of_isMarked {value : Value} (marked : Overflow.isMarked value = true)
    (uri : String) : value ≠ .uri uri := by
  intro same
  exact absurd (same ▸ marked) (by simp [Overflow.isMarked])

theorem ofText_ne_uri (kind : ValueKind) (text uri : String) :
    Overflow.ofText kind text ≠ .uri uri := by
  cases kind <;> simp [Overflow.ofText]

/-- A stored value that reads goes in front of the others, and its text in front of theirs. -/
theorem readValues_cons {scope : ReadingScope} {storedName property : String}
    {one : Value × Option String} (reads : scope.options.overflow.CanRead one)
    (rest : List (Value × Option String)) :
    scope.readValues storedName property (one :: rest) =
      (scope.readValues storedName property rest).map fun (values, deferred) =>
        (scope.readValue one :: values,
          (scope.lacking? storedName property one).toList ++ deferred) := by
  obtain ⟨value, fullText⟩ := one
  have ready (decoded : Value)
      (ofStored : Decoded.ofStored value fullText scope.options.overflow = .ok (.ready decoded))
      (read : scope.readValue (value, fullText) = moved scope.namespaces decoded)
      (complete : scope.lacking? storedName property (value, fullText) = none) :
      scope.readValues storedName property ((value, fullText) :: rest) =
        (scope.readValues storedName property rest).map fun (values, deferred) =>
          (scope.readValue (value, fullText) :: values,
            (scope.lacking? storedName property (value, fullText)).toList ++ deferred) := by
    rw [readValues, ofStored, ok_bind, read, complete]
    cases scope.readValues storedName property rest with
    | error error => rfl
    | ok result => cases decoded <;> rfl
  cases mode : scope.options.overflow <;> cases marked : Overflow.isMarked value
  case inline.false =>
    exact ready value (by simp [mode, Decoded.ofStored, Overflow.restore, marked])
      (by simp [readValue, mode, marked]) (by simp [lacking?, mode])
  case inline.true =>
    obtain ⟨text, rfl⟩ := Option.isSome_iff_exists.1 (reads mode marked)
    refine ready (Overflow.ofText value.kind text)
      (by simp [mode, Decoded.ofStored, Overflow.restore, marked]) ?_ (by simp [lacking?, mode])
    rw [moved_eq_self (ofText_ne_uri _ _)]
    simp [readValue, mode, marked]
  case deferred.false =>
    exact ready value (by simp [mode, Decoded.ofStored, marked])
      (by simp [readValue, mode]) (by simp [lacking?, marked])
  case deferred.true =>
    rw [readValues]
    simp only [mode, Decoded.ofStored, marked, if_true, ok_bind, readValue, lacking?, and_self]
    rw [moved_eq_self (ne_uri_of_isMarked marked)]
    cases scope.readValues storedName property rest <;> rfl

theorem canRead_of_readValues {scope : ReadingScope} {storedName property : String}
    {stored : List (Value × Option String)} {result : List Value × List DeferredText}
    (read : scope.readValues storedName property stored = .ok result) :
    ∀ one ∈ stored, scope.options.overflow.CanRead one := by
  induction stored generalizing result with
  | nil => simp
  | cons one rest ih =>
    obtain ⟨value, fullText⟩ := one
    rw [readValues] at read
    obtain ⟨decoded, ofStored, read⟩ := bind_eq_ok.1 read
    obtain ⟨others, later, -⟩ := bind_eq_ok.1 read
    refine List.forall_mem_cons.2 ⟨fun mode marked => ?_, ih later⟩
    cases fullText with
    | some text => rfl
    | none =>
      rw [mode] at ofStored
      simp [Decoded.ofStored, Overflow.restore, show Overflow.isMarked value = true from marked]
        at ofStored

theorem readValues_eq {scope : ReadingScope} (storedName property : String)
    {stored : List (Value × Option String)}
    (reads : ∀ one ∈ stored, scope.options.overflow.CanRead one) :
    scope.readValues storedName property stored =
      .ok (stored.map scope.readValue, stored.filterMap (scope.lacking? storedName property)) := by
  induction stored with
  | nil => rfl
  | cons one rest ih =>
    obtain ⟨first, others⟩ := List.forall_mem_cons.1 reads
    rw [readValues_cons first, ih others]
    cases lack : scope.lacking? storedName property one <;>
      simp [Except.map, lack]

/-- What is not read as multi-valued is not stored as such. -/
theorem multi_eq_false_of_cardinality? {scope : ReadingScope} {property : String}
    {rows : PropertyRows} (single : scope.cardinality? property rows = some false) :
    rows.multi = false := by
  unfold cardinality? at single
  split at single
  next => exact (Bool.or_eq_false_iff.1 (Option.some.inj single)).2
  next =>
    split at single
    next => exact Option.some.inj single
    next => cases single

/-- What the rows of a property are held as, unless the property is structural or left out. -/
def held? (scope : ReadingScope) (storedName : String) (rows : PropertyRows) :
    Option PropertyValue :=
  if Vocabulary.isStructural storedName then none
  else
    match scope.cardinality? (readUri scope.namespaces storedName) rows with
    | none => none
    | some true => some (.multi (rows.values.map scope.readValue))
    | some false => (rows.values.map scope.readValue).head?.map .single

/-- What is held of a property: nothing of one with a meaning of its own, and of others all values
or the first one. -/
theorem held?_eq_some {scope : ReadingScope} {storedName : String} {rows : PropertyRows}
    {value : PropertyValue} :
    scope.held? storedName rows = some value ↔
      Vocabulary.isStructural storedName = false ∧
        ((scope.cardinality? (readUri scope.namespaces storedName) rows = some true ∧
          value = .multi (rows.values.map scope.readValue)) ∨
        (scope.cardinality? (readUri scope.namespaces storedName) rows = some false ∧
          ∃ stored ∈ rows.values.head?, value = .single (scope.readValue stored))) := by
  unfold held?
  by_cases structural : Vocabulary.isStructural storedName = true
  · simp [structural]
  · rw [if_neg structural]
    cases scope.cardinality? (readUri scope.namespaces storedName) rows with
    | none => simp
    | some multi =>
      cases multi with
      | true => simp [structural, eq_comm]
      | false => cases rows.values <;> simp [structural, eq_comm]

/-- Whether the rows of a property read: their values do, or the property is left out. -/
def Reads (scope : ReadingScope) (storedName : String) (rows : PropertyRows) : Prop :=
  Vocabulary.isStructural storedName = true ∨
    match scope.cardinality? (readUri scope.namespaces storedName) rows with
    | none => scope.options.enforcement = .lenient
    | some _ => ∀ one ∈ rows.values, scope.options.overflow.CanRead one

/-- What reads is left out only where nothing is enforced, if there is anything to be held. -/
theorem lenient_of_held?_eq_none {scope : ReadingScope} {storedName : String} {rows : PropertyRows}
    (reads : scope.Reads storedName rows) (plain : Vocabulary.isStructural storedName = false)
    (filled : rows.values ≠ []) (left : scope.held? storedName rows = none) :
    scope.options.enforcement = .lenient := by
  have reads := reads.resolve_left (by simp [plain])
  unfold held? at left
  rw [if_neg (by simp [plain])] at left
  cases cardinality : scope.cardinality? (readUri scope.namespaces storedName) rows with
  | none =>
    rw [cardinality] at reads
    exact reads
  | some multi =>
    rw [cardinality] at left
    cases multi with
    | true => cases left
    | false => simp [filled] at left

/-- A property reads as another one does, if it is known like that or left out like that and its
values read too. -/
theorem Reads.of_cardinality {scope other : ReadingScope} {storedName : String}
    {rows others : PropertyRows} (read : scope.Reads storedName rows)
    (known : other.cardinality? (readUri other.namespaces storedName) others =
      scope.cardinality? (readUri scope.namespaces storedName) rows)
    (enforced : scope.options.enforcement = .lenient → other.options.enforcement = .lenient)
    (values : (∀ one ∈ rows.values, scope.options.overflow.CanRead one) →
      ∀ one ∈ others.values, other.options.overflow.CanRead one) :
    other.Reads storedName others := by
  refine read.imp_right fun allowed => ?_
  rw [known]
  cases cardinality : scope.cardinality? (readUri scope.namespaces storedName) rows with
  | none =>
    rw [cardinality] at allowed
    exact enforced allowed
  | some multi =>
    rw [cardinality] at allowed
    exact values allowed

/-- The texts that a property lacks. -/
def lacking (scope : ReadingScope) (storedName : String) (rows : PropertyRows) :
    List DeferredText :=
  rows.values.filterMap (scope.lacking? storedName (readUri scope.namespaces storedName))

theorem readProperty_eq {scope : ReadingScope} {storedName : String} {rows : PropertyRows}
    (reads : scope.Reads storedName rows) :
    scope.readProperty storedName rows = .ok (match scope.held? storedName rows with
      | none => .skipped
      | some held =>
        .held (readUri scope.namespaces storedName) held (scope.lacking storedName rows)) := by
  unfold readProperty held?
  by_cases structural : Vocabulary.isStructural storedName = true
  · simp only [structural, if_true]
  · have reads := reads.resolve_left structural
    simp only [structural, if_false, Bool.false_eq_true]
    cases cardinality : scope.cardinality? (readUri scope.namespaces storedName) rows with
    | none =>
      rw [cardinality] at reads
      simp only [show scope.options.enforcement = .lenient from reads, if_true]
    | some multi =>
      rw [cardinality] at reads
      simp only [readValues_eq _ _ reads, ok_bind]
      cases multi with
      | true => rfl
      | false =>
        cases values : rows.values with
        | nil => rfl
        | cons one rest =>
          simp only [lacking, values]
          rfl

theorem reads_of_readProperty {scope : ReadingScope} {storedName : String} {rows : PropertyRows}
    {reading : PropertyReading} (read : scope.readProperty storedName rows = .ok reading)
    (whole : ∀ cause, reading ≠ .broken cause) : scope.Reads storedName rows := by
  unfold readProperty at read
  by_cases structural : Vocabulary.isStructural storedName = true
  · exact .inl structural
  · simp only [structural, if_false, Bool.false_eq_true] at read
    right
    cases cardinality : scope.cardinality? (readUri scope.namespaces storedName) rows with
    | none =>
      rw [cardinality] at read
      by_contra strict
      simp only [strict, if_false] at read
      exact whole _ (Except.ok.inj read).symm
    | some multi =>
      rw [cardinality] at read
      obtain ⟨_, values, -⟩ := bind_eq_ok.1 read
      exact canRead_of_readValues values

/-- Properties with one more, unless it is left out. -/
def put (scope : ReadingScope) (properties : Dictionary PropertyValue)
    (entry : String × PropertyRows) : Dictionary PropertyValue :=
  match scope.held? entry.1 entry.2 with
  | none => properties
  | some held => properties.insert (readUri scope.namespaces entry.1) held

/-- The texts that a property lacks, unless it is left out. -/
def pending (scope : ReadingScope) (entry : String × PropertyRows) : List DeferredText :=
  match scope.held? entry.1 entry.2 with
  | none => []
  | some _ => scope.lacking entry.1 entry.2

/-- What an object is with more properties. -/
def taken (scope : ReadingScope) (start : DecodedObject)
    (entries : List (String × PropertyRows)) : DecodedObject where
  object := { start.object with properties := entries.foldl scope.put start.object.properties }
  deferred := start.deferred ++ entries.flatMap scope.pending

/-- An object is read exactly if all of its properties are. -/
theorem readProperties_eq_ok {scope : ReadingScope} {entries : List (String × PropertyRows)}
    {start last : DecodedObject} :
    scope.readProperties start entries = .ok (.ok last) ↔
      (∀ entry ∈ entries, scope.Reads entry.1 entry.2) ∧ scope.taken start entries = last := by
  induction entries generalizing start with
  | nil => simp [readProperties, taken]
  | cons entry rest ih =>
    obtain ⟨storedName, rows⟩ := entry
    have step (reads : scope.Reads storedName rows) :
        scope.readProperties start ((storedName, rows) :: rest) =
          scope.readProperties (scope.taken start [(storedName, rows)]) rest := by
      rw [readProperties, readProperty_eq reads, ok_bind]
      cases held : scope.held? storedName rows <;>
        simp [taken, put, pending, held, GraphObject.set]
    have twice : scope.taken (scope.taken start [(storedName, rows)]) rest =
        scope.taken start ((storedName, rows) :: rest) := by
      simp [taken]
    rw [List.forall_mem_cons, ← twice]
    constructor
    · intro read
      have reads : scope.Reads storedName rows := by
        rw [readProperties] at read
        obtain ⟨reading, one, others⟩ := bind_eq_ok.1 read
        refine reads_of_readProperty one fun cause broken => ?_
        rw [broken] at others
        cases others
      rw [step reads, ih] at read
      exact ⟨⟨reads, read.1⟩, read.2⟩
    · intro stated
      obtain ⟨⟨reads, others⟩, same⟩ := stated
      rw [step reads, ih]
      exact ⟨others, same⟩

section Put

variable {scope : ReadingScope} {entries : List (String × PropertyRows)}

/-- A property under which nothing is held stays as it was. -/
theorem find?_foldl_put_of_none {property : String} (properties : Dictionary PropertyValue)
    (none : ∀ entry ∈ entries, readUri scope.namespaces entry.1 = property →
      scope.held? entry.1 entry.2 = none) :
    (entries.foldl scope.put properties).find? property = properties.find? property := by
  induction entries generalizing properties with
  | nil => rfl
  | cons entry rest ih =>
    obtain ⟨first, others⟩ := List.forall_mem_cons.1 none
    rw [List.foldl_cons, ih _ others, put]
    cases held : scope.held? entry.1 entry.2 with
    | none => rfl
    | some value =>
      have differs : readUri scope.namespaces entry.1 ≠ property := fun same =>
        absurd (held.symm.trans (first same)) (by simp)
      simp [differs]

/-- Where no two properties are read under one name, each is found as it is held. -/
theorem find?_foldl_put {storedName : String} {rows : PropertyRows} {value : PropertyValue}
    (properties : Dictionary PropertyValue)
    (apart : (entries.map fun entry => readUri scope.namespaces entry.1).Nodup)
    (listed : (storedName, rows) ∈ entries) (held : scope.held? storedName rows = some value) :
    (entries.foldl scope.put properties).find? (readUri scope.namespaces storedName) =
      some value := by
  induction entries generalizing properties with
  | nil => exact absurd listed List.not_mem_nil
  | cons entry rest ih =>
    obtain ⟨new, apart⟩ := List.nodup_cons.1 apart
    rw [List.foldl_cons]
    rcases List.mem_cons.1 listed with rfl | later
    · rw [find?_foldl_put_of_none]
      · simp [put, held]
      · intro other member same
        exact absurd (List.mem_map.2 ⟨other, member, same⟩) new
    · exact ih _ apart later

/-- What was there before counts only where nothing is put. -/
theorem foldl_put_congr {left right : Dictionary PropertyValue}
    (apart : (entries.map fun entry => readUri scope.namespaces entry.1).Nodup)
    (same : ∀ property, (∀ entry ∈ entries, readUri scope.namespaces entry.1 = property →
      scope.held? entry.1 entry.2 = none) → left.find? property = right.find? property) :
    entries.foldl scope.put left = entries.foldl scope.put right := by
  apply Dictionary.ext
  intro property
  by_cases none : ∀ entry ∈ entries, readUri scope.namespaces entry.1 = property →
      scope.held? entry.1 entry.2 = none
  · rw [find?_foldl_put_of_none left none, find?_foldl_put_of_none right none, same property none]
  · push Not at none
    obtain ⟨⟨storedName, rows⟩, listed, rfl, held⟩ := none
    obtain ⟨value, held⟩ := Option.ne_none_iff_exists'.1 held
    rw [find?_foldl_put left apart listed held, find?_foldl_put right apart listed held]

end Put

/-- Where an object of a class is read. -/
def ofClass (registry : Registry) (options : ReadOptions) (uri : String)
    (namespaces : Option (Dictionary String)) (vitaltype : String) : ReadingScope where
  registry := registry
  options := options
  uri := uri
  namespaces := namespaces
  allowExternal := options.external || registry.isContainer vitaltype

/-- Types are those listed after the class, each where it first occurs. -/
theorem typesOf_eq_eraseDups (vitaltype : String) (stored : List String) :
    typesOf vitaltype stored = (vitaltype :: stored).eraseDups := by
  have taken (known new : List String) :
      List.eraseDupsBy.loop (· == ·) new known =
        new.foldl (fun types type => if types.contains type then types else types ++ [type])
          known.reverse := by
    induction new generalizing known with
    | nil => rfl
    | cons type rest ih =>
      have there : known.reverse.contains type = known.any (type == ·) := by
        rw [Bool.eq_iff_iff]
        simp
      rw [List.foldl_cons, there]
      cases again : known.any (type == ·) with
      | true => simp [List.eraseDupsBy.loop, again, ih]
      | false => simp [List.eraseDupsBy.loop, again, ih]
  exact (taken [vitaltype] stored).symm

/-- Where the class is the first type that is listed, types are the listed ones. -/
theorem typesOf_cons (vitaltype : String) (others : List String) :
    typesOf vitaltype (vitaltype :: others) = (vitaltype :: others).eraseDups := by
  simp [typesOf_eq_eraseDups, List.eraseDups_cons]

/-- The types that rows list. -/
def listedTypes (namespaces : Option (Dictionary String)) (rows : PropertyRows) : List String :=
  (rows.values.filterMap fun (value, _) => value.text?).map (readUri namespaces)

/-- An object is read exactly if its rows name a class that is registered, its version is accepted
and its properties are read. -/
theorem readGrouped_eq_ok {registry : Registry} {options : ReadOptions} {uri : String}
    {grouped : Dictionary PropertyRows} {decoded : DecodedObject} :
    readGrouped registry options uri grouped = .ok (.ok decoded) ↔
      ∃ storedType typeRows namespaces,
        PropertyRows.firstText? grouped Vocabulary.vitaltype = some storedType ∧
        grouped.find? Vocabulary.types = some typeRows ∧
        reconcile registry options.enforcement uri grouped = .ok namespaces ∧
        (registry.class? (readUri namespaces storedType)).isSome = true ∧
        (∀ entry ∈ grouped.entries, (ofClass registry options uri namespaces
          (readUri namespaces storedType)).Reads entry.1 entry.2) ∧
        (ofClass registry options uri namespaces (readUri namespaces storedType)).taken
          ⟨⟨uri, readUri namespaces storedType,
            typesOf (readUri namespaces storedType) (listedTypes namespaces typeRows), ∅⟩, []⟩
          grouped.entries = decoded := by
  constructor
  · intro read
    unfold readGrouped at read
    split at read
    next => cases read
    next storedType typed =>
      split at read
      next => cases read
      next typeRows listed =>
        obtain ⟨namespaces, reconciled, read⟩ := bind_eq_ok.1 read
        dsimp only at read
        split at read
        next => cases read
        next registered =>
          have registered : (registry.class? (readUri namespaces storedType)).isSome = true :=
            Option.isSome_iff_ne_none.2 (by simpa using registered)
          exact ⟨storedType, typeRows, namespaces, typed, listed, reconciled, registered,
            readProperties_eq_ok.1 read⟩
  · intro stated
    obtain ⟨storedType, typeRows, namespaces, typed, listed, reconciled, registered, reads⟩ :=
      stated
    have read := readProperties_eq_ok.2 reads
    have known : (registry.class? (readUri namespaces storedType)).isNone = false := by
      simpa using registered
    simp only [readGrouped, typed, listed, reconciled, ok_bind, known, Bool.false_eq_true, if_false]
    exact read

end ReadingScope

/-- Rows read as an object exactly if they can be grouped and the groups read as one. -/
theorem DecodedObject.ofRows_eq_some {registry : Registry} {options : ReadOptions} {first : Row}
    {rest : List Row} {decoded : DecodedObject} :
    ofRows registry options (first :: rest) = .ok (some decoded) ↔
      ∃ grouped, PropertyRows.group first.uri (first :: rest) = .ok grouped ∧
        ReadingScope.readGrouped registry options first.uri grouped = .ok (.ok decoded) := by
  constructor
  · intro read
    obtain ⟨grouped, made, read⟩ := bind_eq_ok.1 read
    obtain ⟨outcome, grouping, read⟩ := bind_eq_ok.1 read
    cases outcome with
    | ok found =>
      obtain rfl : found = decoded := by simpa using Except.ok.inj read
      exact ⟨grouped, made, grouping⟩
    | error cause =>
      dsimp only at read
      split at read <;> cases read
  · intro stated
    obtain ⟨grouped, made, read⟩ := stated
    rw [ofRows, made, ok_bind, read]
    rfl

end GraphSegments
