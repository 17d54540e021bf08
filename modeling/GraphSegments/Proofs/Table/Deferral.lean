import GraphSegments.Proofs.Table.Substitution
import GraphSegments.Table.FullText

/-!
Reading an object without its long texts and putting them in afterwards gives the object that is
read together with them. What carries the proof is that the texts of a property come in the order
of its markers, and that no text is a marker itself: the first marker that is left always stands
for the first text that is left.
-/

namespace GraphSegments
open Results

namespace FullText

/-- The texts of a property of an object, in order. -/
def ofProperty (uri storedName : String) (texts : List FullText) : List String :=
  (texts.filter fun text => text.uri = uri ∧ text.storedName = storedName).map (·.text)

theorem ofProperty_cons (uri storedName : String) (first : FullText) (others : List FullText) :
    ofProperty uri storedName (first :: others) =
      if first.uri = uri ∧ first.storedName = storedName then
        first.text :: ofProperty uri storedName others
      else ofProperty uri storedName others := by
  by_cases mine : first.uri = uri ∧ first.storedName = storedName <;> simp [ofProperty, mine]

/-- Taking the first text of a property leaves the others of the property, and those of all other
properties. -/
theorem exists_take? {uri storedName text : String} {texts : List FullText} {rest : List String}
    (listed : ofProperty uri storedName texts = text :: rest) :
    ∃ left, take? uri storedName texts = some (text, left) ∧
      ofProperty uri storedName left = rest ∧
      ∀ other ≠ storedName, ofProperty uri other left = ofProperty uri other texts := by
  induction texts with
  | nil => exact absurd listed (by simp [ofProperty])
  | cons first others ih =>
    rw [ofProperty_cons] at listed
    unfold take?
    by_cases mine : first.uri = uri ∧ first.storedName = storedName
    · rw [if_pos mine, List.cons.injEq] at listed
      refine ⟨others, by simp [mine, listed.1], listed.2, fun other differs => ?_⟩
      rw [ofProperty_cons, if_neg fun theirs => differs (theirs.2.symm.trans mine.2)]
    · rw [if_neg mine] at listed
      obtain ⟨left, taken, own, same⟩ := ih listed
      refine ⟨first :: left, by simp [mine, taken], ?_, fun other differs => ?_⟩
      · rw [ofProperty_cons, if_neg mine, own]
      · rw [ofProperty_cons, ofProperty_cons, same other differs]

/-- The texts of a property are those of its rows. -/
theorem ofProperty_ofRows {uri : String} {rows : List Row} (mine : ∀ row ∈ rows, row.uri = uri)
    (storedName : String) :
    ofProperty uri storedName (rows.filterMap ofRow?) =
      ((Row.named storedName rows).map fun row => (row.value, row.fullText)).filterMap (·.2) := by
  induction rows with
  | nil => rfl
  | cons row rest ih =>
    obtain ⟨here, mine⟩ := List.forall_mem_cons.1 mine
    have named : Row.named storedName (row :: rest) =
        if row.name = storedName then row :: Row.named storedName rest
        else Row.named storedName rest := by
      by_cases same : row.name = storedName <;> simp [Row.named, same]
    rw [named]
    cases text : row.fullText with
    | none =>
      rw [List.filterMap_cons_none (by simp [ofRow?, text]), ih mine]
      by_cases same : row.name = storedName <;> simp [same, text]
    | some text' =>
      rw [List.filterMap_cons_some (show ofRow? row = some ⟨row.uri, row.name, text'⟩ by
        simp [ofRow?, text]), ofProperty_cons, ih mine]
      by_cases same : row.name = storedName <;> simp [same, here, text]

/-- What stands before the first marker stays. -/
theorem replaceFirst_append {value marked : Value} {done rest : List Value}
    (clean : ∀ value ∈ done, Overflow.isMarked value = false)
    (marks : Overflow.isMarked marked = true) :
    replaceFirst value (done ++ marked :: rest) = done ++ value :: rest := by
  induction done with
  | nil => simp [replaceFirst, marks]
  | cons first others ih =>
    obtain ⟨here, clean⟩ := List.forall_mem_cons.1 clean
    simp [replaceFirst, here, ih clean]

end FullText

/-- A stored value without its full text. -/
def Overflow.withoutText (stored : Value × Option String) : Value × Option String := (stored.1, none)

namespace PropertyRows

/-- The rows of a property without their full texts. -/
abbrev withoutTexts (rows : PropertyRows) : PropertyRows := rows.withStored Overflow.withoutText

/-- A property that is not multi-valued has one row. -/
theorem Stands.exists_single {uri : String} {rows : List Row} {grouped : Dictionary PropertyRows}
    (stands : Stands uri rows grouped) {name : String} {together : PropertyRows}
    (found : grouped.find? name = some together)
    (single : together.multi = false) : ∃ stored, together.values = [stored] := by
  rw [stands.found] at found
  have coherent : Row.Coherent (Row.named name rows) := stands.coherent.filter _
  have alike : ∀ row ∈ Row.named name rows, row.uri = uri ∧ row.name = name := by
    intro row listed
    obtain ⟨listed, same⟩ := Row.mem_named.1 listed
    exact ⟨stands.uris row listed, same⟩
  cases named : Row.named name rows with
  | nil => exact absurd (named ▸ found) (by simp [ofRows?])
  | cons first rest =>
    rw [named] at found coherent alike
    obtain rfl := Option.some.inj found
    cases rest with
    | nil => exact ⟨_, rfl⟩
    | cons second others =>
      obtain ⟨⟨firstUri, firstName⟩, alike⟩ := List.forall_mem_cons.1 alike
      obtain ⟨⟨secondUri, secondName⟩, -⟩ := List.forall_mem_cons.1 alike
      have multi := (List.pairwise_cons.1 coherent).1 second List.mem_cons_self
        (firstUri.trans secondUri.symm) (firstName.trans secondName.symm)
      exact absurd multi.1 (by simpa using single)

end PropertyRows

namespace GraphObject

theorem get?_set (object : GraphObject) (property other : String) (held : PropertyValue) :
    (object.set property held).get? other =
      if property = other then some held else object.get? other :=
  Dictionary.find?_insert ..

theorem set_set (object : GraphObject) (property : String) (first second : PropertyValue) :
    (object.set property first).set property second = object.set property second := by
  simp [set]

theorem set_eq_self {object : GraphObject} {property : String} {held : PropertyValue}
    (there : object.get? property = some held) : object.set property held = object := by
  rw [set, Dictionary.insert_eq_self there]

end GraphObject

/-- A text stands beside every marker and nowhere else, and is no marker itself. -/
def Overflow.Completes (stored : Value) (fullText : Option String) : Prop :=
  (fullText.isSome = true ↔ isMarked stored = true) ∧ fullText ≠ some marker

/-- A text that is found takes its place. -/
theorem Resolution.ofDeferred_cons {object : GraphObject} {texts left : List FullText}
    {pending : DeferredText} {text : String} {held : PropertyValue} {rest : List DeferredText}
    (taken : FullText.take? pending.uri pending.storedName texts = some (text, left))
    (there : object.get? pending.property = some held) :
    ofDeferred object texts (pending :: rest) =
      ofDeferred (object.set pending.property
        (FullText.place (Overflow.ofText pending.kind text) held)) left rest := by
  simp only [ofDeferred, taken, there]

namespace ReadingScope

/-- The scope in which texts are asked for later. -/
def deferring (scope : ReadingScope) : ReadingScope :=
  { scope with options := { scope.options with overflow := .deferred } }

variable {scope : ReadingScope}

theorem readValue_deferring (stored : Value) (fullText : Option String) :
    scope.deferring.readValue (stored, fullText) = moved scope.namespaces stored := by
  simp [readValue, deferring]

theorem held?_deferring (storedName : String) (rows : PropertyRows) :
    scope.deferring.held? storedName rows.withoutTexts =
      if Vocabulary.isStructural storedName then none
      else
        match scope.cardinality? (readUri scope.namespaces storedName) rows with
        | none => none
        | some true =>
          some (.multi (rows.values.map fun stored => moved scope.namespaces stored.1))
        | some false =>
          (rows.values.map fun stored => moved scope.namespaces stored.1).head?.map .single := by
  have values : rows.withoutTexts.values.map scope.deferring.readValue =
      rows.values.map fun stored => moved scope.namespaces stored.1 := by
    rw [PropertyRows.withoutTexts, PropertyRows.withStored, List.map_map]
    exact List.map_congr_left fun stored _ => readValue_deferring _ _
  rw [held?, values]
  rfl

/-- A property that is left out is left out without its texts as well. -/
theorem held?_deferring_eq_none {storedName : String} {rows : PropertyRows}
    (left : scope.held? storedName rows = none) :
    scope.deferring.held? storedName rows.withoutTexts = none := by
  rw [held?_deferring]
  unfold held? at left
  by_cases structural : Vocabulary.isStructural storedName = true
  · rw [if_pos structural]
  · rw [if_neg structural] at left ⊢
    cases cardinality : scope.cardinality? (readUri scope.namespaces storedName) rows with
    | none => rfl
    | some multi =>
      rw [cardinality] at left
      cases multi with
      | true => cases left
      | false =>
        cases values : rows.values with
        | nil => rfl
        | cons stored rest =>
          rw [values] at left
          cases left

/-- What a property is held as together with its texts, and without them. -/
theorem held?_cases {storedName : String} {rows : PropertyRows} {value : PropertyValue}
    (held : scope.held? storedName rows = some value) :
    (value = .multi (rows.values.map scope.readValue) ∧
      scope.deferring.held? storedName rows.withoutTexts =
        some (.multi (rows.values.map fun stored => moved scope.namespaces stored.1))) ∨
    (rows.multi = false ∧ ∃ stored rest, rows.values = stored :: rest ∧
      value = .single (scope.readValue stored) ∧
      scope.deferring.held? storedName rows.withoutTexts =
        some (.single (moved scope.namespaces stored.1))) := by
  rw [held?_deferring]
  obtain ⟨plain, ⟨cardinality, rfl⟩ | ⟨cardinality, stored, first, rfl⟩⟩ := held?_eq_some.1 held
  · left
    simp [plain, cardinality]
  · right
    obtain ⟨rest, values⟩ := List.head?_eq_some_iff.1 first
    exact ⟨multi_eq_false_of_cardinality? cardinality, stored, rest, values, rfl,
      by simp [plain, cardinality, values]⟩

theorem isMarked_moved (namespaces : Option (Dictionary String)) (value : Value) :
    Overflow.isMarked (moved namespaces value) = Overflow.isMarked value := by
  cases value <;> rfl

theorem isMarked_ofText {text : String} (kind : ValueKind) (plain : text ≠ Overflow.marker) :
    Overflow.isMarked (Overflow.ofText kind text) = false := by
  cases kind <;> simpa [Overflow.ofText, Overflow.isMarked] using plain

theorem readValue_of_unmarked {stored : Value × Option String}
    (unmarked : Overflow.isMarked stored.1 = false) :
    scope.readValue stored = moved scope.namespaces stored.1 := by
  simp [readValue, unmarked]

/-- The text for which the marker of a stored value stands, if it is one. -/
def awaited? (scope : ReadingScope) (storedName : String) (stored : Value × Option String) :
    Option DeferredText :=
  if Overflow.isMarked stored.1 then
    some ⟨scope.uri, storedName, readUri scope.namespaces storedName, stored.1.kind⟩
  else none

theorem lacking_deferring (storedName : String) (rows : PropertyRows) :
    scope.deferring.lacking storedName rows.withoutTexts =
      rows.values.filterMap (scope.awaited? storedName) := by
  rw [lacking, PropertyRows.withoutTexts, PropertyRows.withStored, List.filterMap_map]
  apply List.filterMap_congr
  intro stored _
  simp [lacking?, awaited?, deferring, Overflow.withoutText]

section Resolve

variable (mode : scope.options.overflow = .inline) {storedName : String}
include mode

/-- The texts of a list go where its markers stand: what stands before the first marker that is
left has been read already. -/
theorem resolve_multi {stored : List (Value × Option String)} {object : GraphObject}
    {texts : List FullText} (complete : ∀ one ∈ stored, Overflow.Completes one.1 one.2)
    (done : List Value) (clean : ∀ value ∈ done, Overflow.isMarked value = false)
    (held : object.get? (readUri scope.namespaces storedName) =
      some (.multi (done ++ stored.map fun one => moved scope.namespaces one.1)))
    (listed : FullText.ofProperty scope.uri storedName texts = stored.filterMap (·.2))
    (rest : List DeferredText) :
    ∃ left, (∀ other ≠ storedName, FullText.ofProperty scope.uri other left =
        FullText.ofProperty scope.uri other texts) ∧
      Resolution.ofDeferred object texts (stored.filterMap (scope.awaited? storedName) ++ rest) =
        Resolution.ofDeferred (object.set (readUri scope.namespaces storedName)
          (.multi (done ++ stored.map scope.readValue))) left rest := by
  induction stored generalizing done object texts with
  | nil =>
    refine ⟨texts, fun _ _ => rfl, ?_⟩
    exact congrArg (Resolution.ofDeferred · texts rest) (GraphObject.set_eq_self held).symm
  | cons one stored ih =>
    obtain ⟨value, fullText⟩ := one
    obtain ⟨⟨beside, plain⟩, others⟩ := List.forall_mem_cons.1 complete
    have shifted (read : Value) (later : List Value) :
        done ++ read :: later = (done ++ [read]) ++ later := by simp
    cases marked : Overflow.isMarked value with
    | false =>
      have absent : fullText = none := by
        rw [marked] at beside
        simpa using beside
      subst absent
      have read : scope.readValue (value, none) = moved scope.namespaces value :=
        readValue_of_unmarked marked
      rw [List.filterMap_cons_none (by simp [awaited?, marked]), List.map_cons, read, shifted]
      apply ih others
      · exact List.forall_mem_append.2
          ⟨clean, List.forall_mem_singleton.2 (by rw [isMarked_moved, marked])⟩
      · rw [held, List.map_cons, shifted]
      · rw [listed]
        rfl
    | true =>
      obtain ⟨text, rfl⟩ := Option.isSome_iff_exists.1 (beside.2 marked)
      have read : scope.readValue (value, some text) = Overflow.ofText value.kind text := by
        simp [readValue, mode, marked]
      have placed : FullText.replaceFirst (Overflow.ofText value.kind text)
          (done ++ ((value, some text) :: stored).map fun one => moved scope.namespaces one.1) =
          done ++ Overflow.ofText value.kind text ::
            stored.map fun one => moved scope.namespaces one.1 :=
        FullText.replaceFirst_append clean (by rwa [isMarked_moved])
      obtain ⟨left, taken, own, same⟩ := FullText.exists_take? listed
      have head : scope.awaited? storedName (value, some text) = some
          ⟨scope.uri, storedName, readUri scope.namespaces storedName, value.kind⟩ := by
        rw [awaited?, if_pos marked]
      have unmarked : Overflow.isMarked (Overflow.ofText value.kind text) = false :=
        isMarked_ofText _ fun same => plain (congrArg some same)
      obtain ⟨last, alike, resolved⟩ := ih others _
        (List.forall_mem_append.2 ⟨clean, List.forall_mem_singleton.2 unmarked⟩)
        ((GraphObject.get?_set object _ _ _).trans (if_pos rfl)) own
      refine ⟨last, fun other differs => (alike other differs).trans (same other differs), ?_⟩
      rw [List.filterMap_cons_some head, List.cons_append, Resolution.ofDeferred_cons taken held,
        FullText.place, placed, shifted, resolved, GraphObject.set_set, List.map_cons, read,
        ← shifted]

/-- A single value is replaced by its text, if it is a marker. -/
theorem resolve_single {stored : Value × Option String} {object : GraphObject}
    {texts : List FullText} (complete : Overflow.Completes stored.1 stored.2)
    (held : object.get? (readUri scope.namespaces storedName) =
      some (.single (moved scope.namespaces stored.1)))
    (listed : FullText.ofProperty scope.uri storedName texts = [stored].filterMap (·.2))
    (rest : List DeferredText) :
    ∃ left, (∀ other ≠ storedName, FullText.ofProperty scope.uri other left =
        FullText.ofProperty scope.uri other texts) ∧
      Resolution.ofDeferred object texts ([stored].filterMap (scope.awaited? storedName) ++ rest) =
        Resolution.ofDeferred (object.set (readUri scope.namespaces storedName)
          (.single (scope.readValue stored))) left rest := by
  obtain ⟨value, fullText⟩ := stored
  obtain ⟨beside, -⟩ := complete
  cases marked : Overflow.isMarked value with
  | false =>
    refine ⟨texts, fun _ _ => rfl, ?_⟩
    rw [readValue_of_unmarked marked, GraphObject.set_eq_self held]
    simp [awaited?, marked]
  | true =>
    obtain ⟨text, rfl⟩ := Option.isSome_iff_exists.1 (beside.2 marked)
    have read : scope.readValue (value, some text) = Overflow.ofText value.kind text := by
      simp [readValue, mode, marked]
    obtain ⟨left, taken, -, same⟩ := FullText.exists_take? listed
    refine ⟨left, same, ?_⟩
    have head : scope.awaited? storedName (value, some text) = some
        ⟨scope.uri, storedName, readUri scope.namespaces storedName, value.kind⟩ := by
      rw [awaited?, if_pos marked]
    rw [List.filterMap_cons_some head, List.cons_append, Resolution.ofDeferred_cons taken held,
      FullText.place, read]
    rfl

/-- One property is completed with its texts; the texts of the others stay. -/
theorem resolve_property {rows : PropertyRows} {object : GraphObject} {texts : List FullText}
    (complete : ∀ one ∈ rows.values, Overflow.Completes one.1 one.2)
    (single : rows.multi = false → ∃ one, rows.values = [one])
    (there : ∀ held ∈ scope.deferring.held? storedName rows.withoutTexts,
      object.get? (readUri scope.namespaces storedName) = some held)
    (listed : FullText.ofProperty scope.uri storedName texts = rows.values.filterMap (·.2))
    (rest : List DeferredText) :
    ∃ left, (∀ other ≠ storedName, FullText.ofProperty scope.uri other left =
        FullText.ofProperty scope.uri other texts) ∧
      Resolution.ofDeferred object texts
          (scope.deferring.pending (storedName, rows.withoutTexts) ++ rest) =
        Resolution.ofDeferred
          { object with properties := scope.put object.properties (storedName, rows) }
          left rest := by
  unfold pending put
  cases held : scope.held? storedName rows with
  | none =>
    refine ⟨texts, fun _ _ => rfl, ?_⟩
    rw [held?_deferring_eq_none held]
    rfl
  | some value =>
    rcases held?_cases held with ⟨rfl, without⟩ | ⟨unlisted, one, others, values, rfl, without⟩
    · rw [without]
      dsimp only
      rw [lacking_deferring]
      exact resolve_multi mode complete [] (by simp) (there _ without) listed rest
    · obtain ⟨stored, alone⟩ := single unlisted
      obtain ⟨rfl, rfl⟩ := List.cons.inj (values.symm.trans alone)
      rw [without]
      dsimp only
      rw [lacking_deferring, alone]
      rw [alone] at listed
      exact resolve_single mode (complete one (alone ▸ List.mem_singleton_self one))
        (there _ without) listed rest

/-- All properties are completed, one after the other: none takes a text of another, nor the place
of another. -/
theorem resolve_properties {entries : List (String × PropertyRows)} {object : GraphObject}
    {texts : List FullText}
    (names : (entries.map (·.1)).Nodup)
    (apart : (entries.map fun entry => readUri scope.namespaces entry.1).Nodup)
    (complete : ∀ entry ∈ entries, ∀ one ∈ entry.2.values, Overflow.Completes one.1 one.2)
    (single : ∀ entry ∈ entries, entry.2.multi = false → ∃ one, entry.2.values = [one])
    (there : ∀ entry ∈ entries, ∀ held ∈ scope.deferring.held? entry.1 entry.2.withoutTexts,
      object.get? (readUri scope.namespaces entry.1) = some held)
    (listed : ∀ entry ∈ entries, FullText.ofProperty scope.uri entry.1 texts =
      entry.2.values.filterMap (·.2)) :
    (Resolution.ofDeferred object texts (entries.flatMap fun entry =>
        scope.deferring.pending (entry.1, entry.2.withoutTexts))).result =
      .ok { object with properties := entries.foldl scope.put object.properties } := by
  induction entries generalizing object texts with
  | nil => rfl
  | cons entry rest ih =>
    obtain ⟨newName, names⟩ := List.nodup_cons.1 names
    obtain ⟨newProperty, apart⟩ := List.nodup_cons.1 apart
    obtain ⟨completeHere, complete⟩ := List.forall_mem_cons.1 complete
    obtain ⟨singleHere, single⟩ := List.forall_mem_cons.1 single
    obtain ⟨thereHere, there⟩ := List.forall_mem_cons.1 there
    obtain ⟨listedHere, listed⟩ := List.forall_mem_cons.1 listed
    obtain ⟨left, same, resolved⟩ :=
      resolve_property mode completeHere singleHere thereHere listedHere _
    rw [List.flatMap_cons, resolved]
    apply ih names apart complete single
    · intro other member held awaits
      have differs : readUri scope.namespaces entry.1 ≠ readUri scope.namespaces other.1 :=
        fun same => newProperty (List.mem_map.2 ⟨other, member, same.symm⟩)
      have untouched : (scope.put object.properties entry).find?
          (readUri scope.namespaces other.1) =
            object.get? (readUri scope.namespaces other.1) := by
        unfold put
        cases scope.held? entry.1 entry.2 with
        | none => rfl
        | some value => rw [Dictionary.find?_insert, if_neg differs]; rfl
      exact untouched.trans (there other member held awaits)
    · intro other member
      have differs : other.1 ≠ entry.1 := fun same =>
        newName (List.mem_map.2 ⟨other, member, same⟩)
      rw [same other.1 differs, listed other member]

end Resolve

end ReadingScope

/-- No two names of rows are read under one name. -/
def Row.AreReadApart (registry : Registry) (enforcement : Enforcement) (rows : List Row) : Prop :=
  ∀ uri grouped namespaces, PropertyRows.group uri rows = .ok grouped →
    reconcile registry enforcement uri grouped = .ok namespaces →
      ∀ a ∈ rows, ∀ b ∈ rows, ReadingScope.readUri namespaces a.name =
        ReadingScope.readUri namespaces b.name → a.name = b.name

/-- Properties that are read apart have their rows under one name each. -/
theorem Row.AreReadApart.nodup {registry : Registry} {enforcement : Enforcement} {rows : List Row}
    (apart : AreReadApart registry enforcement rows) {uri : String}
    {grouped : Dictionary PropertyRows} {namespaces : Option (Dictionary String)}
    (stands : PropertyRows.Stands uri rows grouped)
    (reconciled : reconcile registry enforcement uri grouped = .ok namespaces) :
    (grouped.entries.map fun entry => ReadingScope.readUri namespaces entry.1).Nodup := by
  have named (name : String) (listed : name ∈ grouped.entries.map (·.1)) :
      ∃ row ∈ rows, row.name = name := by
    obtain ⟨entry, member, rfl⟩ := List.mem_map.1 listed
    obtain ⟨row, inside, same, -⟩ := stands.exists_row member
    exact ⟨row, inside, same⟩
  rw [show (fun entry : String × PropertyRows => ReadingScope.readUri namespaces entry.1) =
    ReadingScope.readUri namespaces ∘ (·.1) from rfl, ← List.map_map]
  refine List.Nodup.map_on (fun left listed right other same => ?_) grouped.nodup_keys
  obtain ⟨a, inside, rfl⟩ := named left listed
  obtain ⟨b, inside', rfl⟩ := named right other
  exact apart uri grouped namespaces (PropertyRows.group_eq_ok.2 stands) reconciled a inside b
    inside' same

/-- An object that is read without its texts lacks nothing but them. -/
theorem ReadingScope.resolve_taken {scope : ReadingScope} (mode : scope.options.overflow = .inline)
    {rows : List Row} {grouped : Dictionary PropertyRows}
    (stands : PropertyRows.Stands scope.uri rows grouped)
    (complete : ∀ row ∈ rows, Overflow.Completes row.value row.fullText)
    (apart : (grouped.entries.map fun entry => readUri scope.namespaces entry.1).Nodup)
    (uri vitaltype : String) (types : List String) :
    ((scope.deferring.taken ⟨⟨uri, vitaltype, types, ∅⟩, []⟩
      (PropertyRows.allWithStored Overflow.withoutText grouped).entries).resolve
        (rows.filterMap FullText.ofRow?)).result =
      .ok (scope.taken ⟨⟨uri, vitaltype, types, ∅⟩, []⟩ grouped.entries).object := by
  have entries : (PropertyRows.allWithStored Overflow.withoutText grouped).entries =
      grouped.entries.map fun entry => (entry.1, entry.2.withoutTexts) := rfl
  rw [entries]
  have apart' : ((grouped.entries.map fun entry => (entry.1, entry.2.withoutTexts)).map
      fun entry => readUri scope.namespaces entry.1).Nodup := by
    rw [List.map_map]
    exact apart
  have deferred : [] ++ (grouped.entries.map fun entry =>
      (entry.1, entry.2.withoutTexts)).flatMap scope.deferring.pending =
        grouped.entries.flatMap fun entry =>
          scope.deferring.pending (entry.1, entry.2.withoutTexts) := by
    rw [List.nil_append, List.flatMap_map]
  rw [DecodedObject.resolve]
  simp only [taken]
  rw [deferred, resolve_properties mode grouped.nodup_keys apart]
  · refine congrArg Except.ok (congrArg _ (foldl_put_congr apart fun property left => ?_))
    rw [find?_foldl_put_of_none]
    intro entry listed same
    obtain ⟨whole, member, rfl⟩ := List.mem_map.1 listed
    exact held?_deferring_eq_none (left whole member same)
  · intro entry listed one stored
    rw [stands.values listed] at stored
    obtain ⟨row, member, rfl⟩ := List.mem_map.1 stored
    exact complete row (Row.mem_named.1 member).1
  · intro entry listed
    exact stands.exists_single (Dictionary.find?_eq_some.2 listed)
  · intro entry listed held awaits
    exact find?_foldl_put ∅ apart' (List.mem_map.2 ⟨entry, listed, rfl⟩) awaits
  · intro entry listed
    rw [stands.values listed, FullText.ofProperty_ofRows stands.uris]

/-- Rows that read as an object together with their texts read as an object without them, and
putting the texts in afterwards gives the same object. -/
theorem DecodedObject.resolve_withoutFullText {registry : Registry} {options : ReadOptions}
    {rows : List Row} {decoded : DecodedObject}
    (complete : ∀ row ∈ rows, Overflow.Completes row.value row.fullText)
    (apart : Row.AreReadApart registry options.enforcement rows)
    (read : ofRows registry { options with overflow := .inline } rows = .ok (some decoded)) :
    ∃ pending, ofRows registry { options with overflow := .deferred }
        (rows.map Row.withoutFullText) = .ok (some pending) ∧
      (pending.resolve (rows.filterMap FullText.ofRow?)).result = .ok decoded.object := by
  cases rows with
  | nil => cases read
  | cons first rest =>
    obtain ⟨grouped, grouping, read⟩ := ofRows_eq_some.1 read
    have stands := PropertyRows.group_eq_ok.1 grouping
    have texts (stored : Value × Option String) :
        (Overflow.withoutText stored).1.text? = stored.1.text? := rfl
    have reads (stored : Value × Option String) (_ : Overflow.Mode.inline.CanRead stored) :
        Overflow.Mode.deferred.CanRead (Overflow.withoutText stored) :=
      fun mode => absurd mode (by simp)
    obtain ⟨namespaces, vitaltype, types, reconciled, rfl, without⟩ :=
      ReadingScope.readGrouped_withStored texts reads read
    refine ⟨_, ofRows_eq_some.2
      ⟨_, PropertyRows.group_eq_ok.2 (stands.withStored Overflow.withoutText), without⟩, ?_⟩
    let scope := ReadingScope.ofClass registry { options with overflow := .inline } first.uri
      namespaces vitaltype
    exact scope.resolve_taken rfl stands complete (apart.nodup stands reconciled) first.uri
      vitaltype types

/-- A registry in which notes of an older version are known beside those of the current one. -/
def Registry.twoVersions : Registry where
  ontologies := [⟨"urn:notes", ⟨2, 0, 0⟩, none, []⟩]
  older := [⟨"urn:notes", ⟨1, 0, 0⟩, none, []⟩]
  classes := [⟨"urn:notes_v1_0_0#Note", none, "urn:notes", false⟩]
  properties :=
    [⟨"urn:notes_v1_0_0#line", .string, true, none, "urn:notes"⟩,
      ⟨"urn:notes_v1_0_0#title", .string, false, none, "urn:notes"⟩]

/-- The rows of a note of the older version: its title and two of its lines stand apart from their
markers, and so does a text that no ontology defines. -/
def Row.ofLongNote : List Row :=
  let row (name : String) (value : Value) (multi : Bool) (fullText : Option String) : Row :=
    ⟨"urn:a", name, "urn:notes#Note", false, none, none, value, multi, fullText⟩
  [row Vocabulary.vitaltype (.uri "urn:notes#Note") false none,
    row Vocabulary.types (.uri "urn:notes#Note") true none,
    row "urn:notes#title" (.other Overflow.marker) false (some "title"),
    row "urn:notes#line" (.string Overflow.marker) true (some "first line"),
    row "urn:unknown" (.string Overflow.marker) false (some "left out"),
    row "urn:notes#line" (.string "second line") true none,
    row "urn:notes#line" (.other Overflow.marker) true (some "third line"),
    row Vocabulary.hasOntologyIri (.uri "urn:notes") false none,
    row Vocabulary.hasVersionIri (.string "1.0.0") false none]

theorem DecodedObject.resolve_withoutFullText_longNote :
    let options : ReadOptions := ⟨.lenient, false, false, .inline⟩
    let decoded := ((ofRows .twoVersions options Row.ofLongNote).toOption.getD none).getD
      ⟨default, []⟩
    ofRows .twoVersions options Row.ofLongNote = .ok (some decoded) ∧
      decoded.object.get? "urn:notes_v1_0_0#line" =
        some (.multi [.string "first line", .string "second line", .other "third line"]) ∧
      ∃ pending, ofRows .twoVersions { options with overflow := .deferred }
          (Row.ofLongNote.map Row.withoutFullText) = .ok (some pending) ∧
        (pending.resolve (Row.ofLongNote.filterMap FullText.ofRow?)).result = .ok decoded.object := by
  intro options decoded
  have read : ofRows .twoVersions options Row.ofLongNote = .ok (some decoded) :=
    eq_ok_of_toOption (by decide +kernel)
  have complete : ∀ row ∈ Row.ofLongNote, Overflow.Completes row.value row.fullText := by
    unfold Overflow.Completes
    decide
  have apart : Row.AreReadApart .twoVersions .lenient Row.ofLongNote := by
    intro uri grouped namespaces grouping reconciled
    obtain rfl : "urn:a" = uri :=
      (PropertyRows.group_eq_ok.1 grouping).uris _ List.mem_cons_self
    have apart : ∀ a ∈ Row.ofLongNote, ∀ b ∈ Row.ofLongNote,
        let grouped := (PropertyRows.group "urn:a" Row.ofLongNote).toOption.getD ∅
        let namespaces := (reconcile .twoVersions .lenient "urn:a" grouped).toOption.getD none
        ReadingScope.readUri namespaces a.name = ReadingScope.readUri namespaces b.name →
          a.name = b.name := by decide +kernel
    rw [grouping] at apart
    dsimp only [Except.toOption, Option.getD_some] at apart
    rwa [reconciled] at apart
  exact ⟨read, by decide +kernel, resolve_withoutFullText complete apart read⟩

end GraphSegments
