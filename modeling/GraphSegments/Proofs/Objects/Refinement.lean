import GraphSegments.Proofs.Objects.Comparisons
import GraphSegments.Proofs.Search.Modes
import GraphSegments.Proofs.Table.Writing

/-!
Searching the rows of objects finds the objects that satisfy the criteria. A criterion selects the
objects in which it finds what it looks for, because the value columns hold what the objects hold;
from there the meaning of containers carries over.
-/

namespace GraphSegments
open Results Dialogue UriSet

/-- A value that a row keeps as it is. -/
structure Value.IsStorable (value : Value) : Prop where
  current : value.IsCurrent
  short : Encoded.overflow? value = none

/-- An object in the current vocabulary that holds its registered properties as they are
registered. -/
structure GraphObject.IsStorable (registry : Registry) (object : GraphObject) : Prop where
  vitaltype : versionless object.vitaltype = object.vitaltype
  names : ∀ entry ∈ object.properties.entries, versionless entry.1 = entry.1
  values : ∀ entry ∈ object.properties.entries, ∀ value ∈ entry.2.values, value.IsStorable
  registered : ∀ entry ∈ object.properties.entries, ∀ definition,
    registry.property? entry.1 = some definition →
      entry.2.isMulti = definition.multiValued ∧
        ∀ value ∈ entry.2.values, value.kind = definition.kind

/-- A criterion on an exact property that compares it, or its descendants, with operands of its
kind. -/
structure PropertyCriterion.IsPlain (registry : Registry) (definition : PropertyDef)
    (criterion : PropertyCriterion) : Prop where
  registered : registry.property? criterion.property = some definition
  kind : definition.kind.isExact = true
  comparator : criterion.comparator.isExact = true
  operands : ∀ operand ∈ criterion.values, operand.kind = definition.kind ∧ operand.IsCurrent
  names : ∀ name ∈ criterion.names, versionless name = name ∧ Vocabulary.isStructural name = false ∧
    ∃ other, registry.property? name = some other ∧ other.kind = definition.kind ∧
      other.multiValued = definition.multiValued

/-- A criterion whose meaning for objects a search is held against. -/
def Criterion.IsPlain (registry : Registry) : Criterion → Prop
  | property criterion => ∃ definition, criterion.IsPlain registry definition
  | type criterion => (criterion.comparator = .eq ∨ criterion.comparator = .ne) ∧
      ∃ type, criterion.types = [type] ∧ versionless type = type

theorem GraphObject.mem_valuesOf {object : GraphObject} {names : List String} {value : Value} :
    value ∈ object.valuesOf names ↔
      ∃ name ∈ names, ∃ held, object.get? name = some held ∧ value ∈ held.values := by
  simp only [valuesOf, List.mem_flatMap]
  apply exists_congr
  intro name
  apply and_congr_right
  intro _
  cases object.get? name <;> simp

theorem GraphObject.rowOfValue_value (registry : Registry) (object : GraphObject) (name : String)
    (held : PropertyValue) {value : Value} (storable : value.IsStorable) :
    (rowOfValue registry object name held value).value = value := by
  have stored : storedValue value = value := by
    have current := storable.current
    cases value <;> first | rfl | exact congrArg Value.uri current
  simp [rowOfValue, stored, Encoded.ofValue, storable.short]

/-- What a plain criterion demands of a row is what it looks for among the values of an object. -/
theorem PropertyCriterion.IsPlain.holds_demand {scope : LeafScope} {definition : PropertyDef}
    {criterion : PropertyCriterion} (plain : criterion.IsPlain scope.registry definition)
    (normal : criterion.IsNormal) {demand : Option Condition}
    (demanded : criterion.valueCondition? scope = .ok demand) {patterns : Patterns}
    {records : List Record} {record : Record} {value : Value} (same : value.kind = definition.kind)
    (cell : record.cell (.value definition.kind definition.multiValued) = value.datum) :
    (∀ part ∈ demand, part.holds patterns records record = true) ↔
      criterion.comparator.accepts criterion.values value = true := by
  rcases valueCondition?_eq_ok plain.registered demanded with
    ⟨alone, rfl⟩ | ⟨takes, first, rest, test, values, rfl, supported, compiled⟩
  · cases comparator : criterion.comparator <;>
      simp_all [Comparator.takesValue, Comparator.accepts]
  · have single : criterion.comparator.takesList = false → rest = [] := by
      intro one
      have shape := normal.values takes
      rw [one, values] at shape
      obtain ⟨operand, only⟩ := shape
      exact (List.cons.inj only).2
    have supported : criterion.comparator = .contains ∨ criterion.comparator = .notContains ∨
        definition.kind.supports criterion.comparator = true :=
      or_assoc.1 (supported.imp_left And.right)
    rw [values]
    simpa using holds_comparison compiled plain.comparator takes single plain.kind
      (values ▸ plain.operands) supported same cell

theorem PropertyCriterion.IsPlain.map_names {registry : Registry} {definition : PropertyDef}
    {criterion : PropertyCriterion} (plain : criterion.IsPlain registry definition) :
    criterion.names.map versionless = criterion.names :=
  (List.map_congr_left fun name member => (plain.names name member).1).trans (List.map_id _)

/-- The row of a value satisfies a plain criterion exactly if the criterion accepts the value. -/
theorem PropertyCriterion.IsPlain.holds_row {scope : LeafScope} {definition : PropertyDef}
    {criterion : PropertyCriterion} (plain : criterion.IsPlain scope.registry definition)
    (normal : criterion.IsNormal) {demand : Option Condition}
    (demanded : criterion.valueCondition? scope = .ok demand) {patterns : Patterns}
    {records : List Record} {object : GraphObject} (storable : object.IsStorable scope.registry)
    {name : String} (named : name ∈ criterion.names) {held : PropertyValue}
    (found : object.get? name = some held) {value : Value} (member : value ∈ held.values) :
    (Condition.all (criterion.nameCondition :: demand.toList)).holds patterns records
        (.ofRow (object.rowOfValue scope.registry name held value)) = true ↔
      criterion.comparator.accepts criterion.values value = true := by
  obtain ⟨current, -, other, known, kind, cardinality⟩ := plain.names name named
  have entry := Dictionary.find?_eq_some.1 found
  obtain ⟨multi, kinds⟩ := storable.registered _ entry other known
  have stored := GraphObject.rowOfValue_value scope.registry object name held
    (storable.values _ entry value member)
  have same : value.kind = definition.kind := (kinds value member).trans kind
  have cell : (Record.ofRow (object.rowOfValue scope.registry name held value)).cell
      (.value definition.kind definition.multiValued) = value.datum := by
    rw [Record.cell_value, stored, if_pos ⟨same.symm, (multi.trans cardinality).symm⟩]
  have under : versionless name ∈ criterion.names := by rwa [current]
  rw [Condition.holds_all, ← plain.holds_demand normal demanded same cell]
  simp only [List.mem_cons, forall_eq_or_imp, criterion.holds_nameCondition, plain.map_names,
    Option.mem_toList]
  exact and_iff_right under

section Objects

variable {scope : LeafScope} {patterns : Patterns} {objects : List GraphObject} {rows : List Row}
  (written : GraphObject.allToRows scope.registry objects = .ok rows)
  (storable : ∀ object ∈ objects, object.IsStorable scope.registry)

include written in
/-- The objects of a table are those that it was written from. -/
theorem GraphObject.exists_record_iff {uri : String} :
    (∃ record ∈ rows.map Record.ofRow, record.uri = uri) ↔
      ∃ object ∈ objects, object.uri = uri := by
  constructor
  · intro present
    obtain ⟨record, kept, rfl⟩ := present
    obtain ⟨row, member, rfl⟩ := List.mem_map.1 kept
    obtain ⟨object, listed, own, wrote, mine⟩ := (mem_allToRows written).1 member
    exact ⟨object, listed, (repeated_of_mem_toRows wrote mine).1.symm⟩
  · intro present
    obtain ⟨object, listed, rfl⟩ := present
    obtain ⟨own, wrote⟩ := exists_toRows_of_allToRows written listed
    obtain ⟨row, mine, -⟩ := exists_vitaltype_row wrote
    have member := (mem_allToRows written).2 ⟨object, listed, own, wrote, mine⟩
    exact ⟨_, List.mem_map_of_mem member, (repeated_of_mem_toRows wrote mine).1⟩

include written storable

/-- A plain criterion selects the objects in which it finds what it looks for. -/
theorem PropertyCriterion.selects_iff {definition : PropertyDef} {criterion : PropertyCriterion}
    (plain : criterion.IsPlain scope.registry definition) (normal : criterion.IsNormal)
    {condition : Condition}
    (compiled : (Criterion.property criterion).leafCondition scope none = .ok condition)
    (uri : String) :
    condition.Selects patterns (rows.map .ofRow) uri ↔
      ∃ object ∈ objects, object.uri = uri ∧
        (Criterion.property criterion).isFoundIn object = true := by
  obtain ⟨demand, demanded, composed⟩ := bind_eq_ok.1 compiled
  obtain rfl := Except.ok.inj composed
  rw [Condition.selects_rows]
  constructor
  · intro selected
    obtain ⟨row, member, rfl, holds⟩ := selected
    obtain ⟨object, listed, own, wrote, mine⟩ := (GraphObject.mem_allToRows written).1 member
    have named : row.name ∈ criterion.names := by
      rw [Condition.holds_all] at holds
      have under : criterion.nameCondition.holds patterns (rows.map .ofRow) (.ofRow row) = true :=
        holds _ List.mem_cons_self
      rwa [criterion.holds_nameCondition, plain.map_names] at under
    obtain ⟨held, found, value, among, same⟩ := (GraphObject.mem_toRows_of_name wrote
      (plain.names row.name named).2.1 (storable object listed).names).1 ⟨mine, rfl⟩
    refine ⟨object, listed, (GraphObject.repeated_of_mem_toRows wrote mine).1.symm, ?_⟩
    refine List.any_eq_true.2
      ⟨value, GraphObject.mem_valuesOf.2 ⟨row.name, named, held, found, among⟩, ?_⟩
    rw [← same] at holds
    exact (plain.holds_row normal demanded (storable object listed) named found among).1 holds
  · intro found
    obtain ⟨object, listed, rfl, has⟩ := found
    obtain ⟨value, among, accepts⟩ := List.any_eq_true.1 has
    obtain ⟨name, named, held, found, member⟩ := GraphObject.mem_valuesOf.1 among
    obtain ⟨own, wrote⟩ := GraphObject.exists_toRows_of_allToRows written listed
    obtain ⟨mine, -⟩ := (GraphObject.mem_toRows_of_name wrote (plain.names name named).2.1
      (storable object listed).names).2 ⟨held, found, value, member, rfl⟩
    exact ⟨_, (GraphObject.mem_allToRows written).2 ⟨object, listed, own, wrote, mine⟩, rfl,
      (plain.holds_row normal demanded (storable object listed) named found member).2 accepts⟩

/-- So does a plain type criterion, by the row that every object has for its class. -/
theorem TypeCriterion.selects_iff {criterion : TypeCriterion}
    (plain : (Criterion.type criterion).IsPlain scope.registry) (normal : criterion.IsNormal)
    {condition : Condition}
    (compiled : (Criterion.type criterion).leafCondition scope none = .ok condition)
    (uri : String) :
    condition.Selects patterns (rows.map .ofRow) uri ↔
      ∃ object ∈ objects, object.uri = uri ∧
        (Criterion.type criterion).isFoundIn object = true := by
  obtain ⟨test, made⟩ := criterion.exists_condition normal
  rw [Criterion.leafCondition_type made] at compiled
  obtain rfl := Except.ok.inj compiled
  have compared : criterion.compared = criterion.types := by
    obtain ⟨one | one, type, only, current⟩ := plain <;>
      simp [TypeCriterion.compared, one, only, current, Comparator.takesList]
  have found (object : GraphObject) : (Criterion.type criterion).isFoundIn object = true ↔
      (criterion.isInclusive = true ↔ object.vitaltype ∈ criterion.types) := by
    rw [Criterion.isFoundIn, beq_iff_eq, Bool.eq_iff_iff, List.contains_iff_mem]
    exact Iff.comm
  simp only [Condition.selects_rows, Condition.holds_all, List.mem_cons, List.not_mem_nil, or_false,
    forall_eq_or_imp, forall_eq, criterion.holds_condition made, compared, found,
    Condition.holds_columnIs .name rfl (Record.cell_name _)]
  constructor
  · intro selected
    obtain ⟨row, member, rfl, -, accepted⟩ := selected
    obtain ⟨object, listed, own, wrote, mine⟩ := (GraphObject.mem_allToRows written).1 member
    obtain ⟨same, vitaltype, -⟩ := GraphObject.repeated_of_mem_toRows wrote mine
    refine ⟨object, listed, same.symm, ?_⟩
    rw [(storable object listed).vitaltype] at vitaltype
    rwa [← vitaltype]
  · intro found
    obtain ⟨object, listed, rfl, accepted⟩ := found
    obtain ⟨own, wrote⟩ := GraphObject.exists_toRows_of_allToRows written listed
    obtain ⟨row, mine, named⟩ := GraphObject.exists_vitaltype_row wrote
    obtain ⟨same, vitaltype, -⟩ := GraphObject.repeated_of_mem_toRows wrote mine
    refine ⟨row, (GraphObject.mem_allToRows written).2 ⟨object, listed, own, wrote, mine⟩, same,
      named, ?_⟩
    rw [(storable object listed).vitaltype] at vitaltype
    change _ ↔ row.vitaltype ∈ criterion.types
    rwa [vitaltype]

/-- What a plain criterion in normal form selects are the objects in which it finds what it looks
for. -/
theorem Criterion.selects_iff {criterion : Criterion} (plain : criterion.IsPlain scope.registry)
    (normal : criterion.IsNormal) {condition : Condition}
    (compiled : criterion.leafCondition scope none = .ok condition) (uri : String) :
    condition.Selects patterns (rows.map .ofRow) uri ↔
      ∃ object ∈ objects, object.uri = uri ∧ criterion.isFoundIn object = true := by
  cases criterion with
  | property criterion =>
    obtain ⟨definition, plain⟩ := plain
    exact PropertyCriterion.selects_iff written storable plain normal compiled uri
  | type criterion => exact TypeCriterion.selects_iff written storable plain normal compiled uri

end Objects

/-! The reading of criteria by objects. -/

/-- The criteria that a search is held against. -/
def Criterion.IsComparable (registry : Registry) (criterion : Criterion) : Prop :=
  criterion.IsPlain registry ∧ criterion.IsNormal

/-- The reading that asks objects, where a criterion says something of them, and else the records of
a table. -/
def Reading.ofObjects (scope : LeafScope) (patterns : Patterns) (objects : List GraphObject)
    (records : List Record) : Reading where
  known uri := ∃ object ∈ objects, object.uri = uri
  leaf fold criterion uri :=
    (fold = none ∧ criterion.IsComparable scope.registry ∧
      ∃ object ∈ objects, object.uri = uri ∧ criterion.isFoundIn object = true) ∨
    (¬ (fold = none ∧ criterion.IsComparable scope.registry) ∧
      (ofRecords scope patterns records).leaf fold criterion uri)
  fold := (ofRecords scope patterns records).fold

theorem Reading.describes_ofObjects {scope : LeafScope} (patterns : Patterns)
    {objects : List GraphObject} {rows : List Row}
    (written : GraphObject.allToRows scope.registry objects = .ok rows)
    (storable : ∀ object ∈ objects, object.IsStorable scope.registry) :
    (ofObjects scope patterns objects (rows.map .ofRow)).Describes scope patterns
      (rows.map .ofRow) where
  known _ := (GraphObject.exists_record_iff written).symm
  leaf {fold criterion condition} compiled uri := by
    by_cases comparable : fold = none ∧ criterion.IsComparable scope.registry
    · obtain ⟨rfl, plain, normal⟩ := comparable
      rw [Criterion.selects_iff written storable plain normal compiled]
      exact ⟨fun asked => (asked.resolve_right fun other => other.1 ⟨rfl, plain, normal⟩).2.2,
        fun found => .inl ⟨rfl, ⟨plain, normal⟩, found⟩⟩
    · rw [← (describes_ofRecords scope patterns (rows.map .ofRow)).leaf compiled uri]
      exact ⟨fun asked => (asked.resolve_left fun other => comparable ⟨other.1, other.2.1⟩).2,
        fun asked => .inr ⟨comparable, asked⟩⟩
  fold _ _ := Iff.rfl

/-- Objects with distinct URIs are known by them. -/
theorem GraphObject.eq_of_uri {objects : List GraphObject}
    (distinct : (objects.map (·.uri)).Nodup) {left right : GraphObject} (here : left ∈ objects)
    (there : right ∈ objects) (same : left.uri = right.uri) : left = right := by
  induction objects with
  | nil => exact absurd here List.not_mem_nil
  | cons head rest ih =>
    obtain ⟨fresh, distinct⟩ := List.nodup_cons.1 distinct
    cases here with
    | head =>
      cases there with
      | head => rfl
      | tail _ there => exact absurd (List.mem_map.2 ⟨right, there, same.symm⟩) fresh
    | tail _ here =>
      cases there with
      | head => exact absurd (List.mem_map.2 ⟨left, here, same⟩) fresh
      | tail _ there => exact ih distinct here there

section Matching

variable {scope : LeafScope} (patterns : Patterns) {objects : List GraphObject}
  (records : List Record) (distinct : (objects.map (·.uri)).Nodup) {object : GraphObject}
  (listed : object ∈ objects)
include distinct listed

theorem Criterion.matches_ofObjects {criterion : Criterion}
    (comparable : criterion.IsComparable scope.registry) :
    criterion.Matches (.ofObjects scope patterns objects records) none object.uri ↔
      criterion.isSatisfiedBy object = true := by
  have leaf : (Reading.ofObjects scope patterns objects records).leaf none criterion object.uri ↔
      criterion.isFoundIn object = true := by
    constructor
    · intro asked
      obtain ⟨-, -, other, present, same, found⟩ | ⟨incomparable, -⟩ := asked
      · exact GraphObject.eq_of_uri distinct present listed same ▸ found
      · exact absurd ⟨rfl, comparable⟩ incomparable
    · exact fun found => .inl ⟨rfl, comparable, object, listed, rfl, found⟩
  rw [Criterion.Matches, leaf, Criterion.isSatisfiedBy]
  cases criterion.isSetNegation <;> simp

set_option linter.unusedSectionVars false in
mutual

theorem Element.matches_ofObjects (element : Element)
    (comparable : element.Every (Criterion.IsComparable scope.registry)) :
    element.Matches (.ofObjects scope patterns objects records) false none object.uri ↔
      element.isSatisfiedBy object = true := by
  match element with
  | .leaf criterion => exact Criterion.matches_ofObjects patterns records distinct listed comparable
  | .nested .and elements =>
    have every := Element.matchesAll_ofObjects elements comparable 0
    rw [Element.matches_nested]
    simpa [Fold.typesWanted, Container.Matches, Container.Joins, Element.isSatisfiedBy] using every
  | .nested .or elements =>
    have some := Element.matchesSome_ofObjects elements comparable
    rw [Element.matches_nested]
    simpa [Fold.typesWanted, Container.Matches, Container.Joins, Element.isSatisfiedBy] using some

theorem Element.matchesAll_ofObjects (elements : List Element)
    (comparable : Element.EveryAll (Criterion.IsComparable scope.registry) elements)
    (place : Nat) :
    Element.MatchesAll (.ofObjects scope patterns objects records) false none object.uri place
        elements ↔ Element.allSatisfiedBy object elements = true := by
  match elements with
  | [] => simp [Element.MatchesAll, Element.allSatisfiedBy]
  | element :: rest =>
    have here := Element.matches_ofObjects element comparable.1
    have others := Element.matchesAll_ofObjects rest comparable.2 (place + 1)
    simp [Element.MatchesAll, Element.allSatisfiedBy, here, others]

theorem Element.matchesSome_ofObjects (elements : List Element)
    (comparable : Element.EveryAll (Criterion.IsComparable scope.registry) elements) :
    Element.MatchesSome (.ofObjects scope patterns objects records) false object.uri elements ↔
      Element.someSatisfiedBy object elements = true := by
  match elements with
  | [] => simp [Element.MatchesSome, Element.someSatisfiedBy]
  | element :: rest =>
    have here := Element.matches_ofObjects element comparable.1
    have others := Element.matchesSome_ofObjects rest comparable.2
    simp [Element.MatchesSome, Element.someSatisfiedBy, here, others]

end

end Matching

/-- A search of the rows of objects finds exactly the objects that satisfy the criteria. -/
theorem SegmentScope.search_refines (scope : SegmentScope) (mode : ExecutionMode)
    (database : Database) (objects : List GraphObject) (rows : List Row)
    (raw criteria : Container) (found : UriSet)
    (present : database.recordsOf scope.table = .ok (rows.map .ofRow))
    (written : GraphObject.allToRows scope.registry objects = .ok rows)
    (distinct : (objects.map (·.uri)).Nodup)
    (storable : ∀ object ∈ objects, object.IsStorable scope.registry)
    (normalized : raw.normalize scope.registry = .ok criteria)
    (plain : criteria.Every (Criterion.IsPlain scope.registry))
    (unfolded : scope.folding = false) (unprobed : scope.probing = false)
    (ran : (scope.search mode criteria).run database = .ok found) :
    found = UriSet.ofList
      ((objects.filter fun object => criteria.isSatisfiedBy object).map (·.uri)) := by
  have comparable : criteria.Every (Criterion.IsComparable scope.registry) :=
    Element.EveryAll.and criteria.elements plain (Container.normal_of_normalize normalized)
  have finds := finds_search present
    (Reading.describes_ofObjects database.patterns written storable)
    (trusts_of_unprobed unprobed) (Container.eachAnd_of_every comparable) mode ran
  rw [unfolded] at finds
  have matching {object : GraphObject} (listed : object ∈ objects) :
      criteria.Matches (.ofObjects scope.toLeafScope database.patterns objects (rows.map .ofRow))
        false object.uri ↔ criteria.isSatisfiedBy object = true := by
    have whole := Element.matches_ofObjects database.patterns (rows.map .ofRow) distinct listed
      criteria.asElement comparable
    rwa [Container.asElement, Element.matches_nested] at whole
  apply finds.ascending.ext (ascending_ofList _)
  intro uri
  rw [finds.mem_iff, mem_ofList, List.mem_map]
  constructor
  · intro matching
    obtain ⟨⟨object, listed, rfl⟩, matched⟩ := matching
    exact ⟨object, List.mem_filter.2 ⟨listed, (matching listed).1 matched⟩, rfl⟩
  · intro satisfying
    obtain ⟨object, kept, rfl⟩ := satisfying
    obtain ⟨listed, satisfied⟩ := List.mem_filter.1 kept
    exact ⟨⟨object, listed, rfl⟩, (matching listed).2 satisfied⟩

/-- The recent node, but not the message without a timestamp. -/
theorem SegmentScope.search_refines_recent :
    let scope : SegmentScope := ⟨⟨.core, .sqlite⟩, "notes", 0, false, false⟩
    let objects : List GraphObject :=
      [(GraphObject.ofClass "urn:a" Vocabulary.nodeClass).set Vocabulary.hasTimestamp
          (.single (.long 7)),
        GraphObject.ofClass "urn:b" Vocabulary.messageClass]
    let rows := (GraphObject.allToRows .core objects).toOption.getD []
    let database := Database.ofTable "notes" (rows.map .ofRow)
    let criteria : Container :=
      ⟨.and, [.leaf (.type ⟨[Vocabulary.messageClass], .ne, false, false⟩),
        .leaf (.property
          ⟨Vocabulary.hasTimestamp, .ge, some (.single (.long 5)), false, false, []⟩)]⟩
    GraphObject.allToRows .core objects = .ok rows ∧
      (scope.search .setAlgebra criteria).run database = .ok ["urn:a"] ∧
      ["urn:a"] = UriSet.ofList
        ((objects.filter fun object => criteria.isSatisfiedBy object).map (·.uri)) := by
  intro scope objects rows database criteria
  have written : GraphObject.allToRows .core objects = .ok rows :=
    eq_ok_of_toOption (by decide +kernel)
  have ran : (scope.search .setAlgebra criteria).run database = .ok ["urn:a"] :=
    eq_ok_of_toOption (by decide +kernel)
  have registered : Registry.core.property? Vocabulary.hasTimestamp =
      some ⟨Vocabulary.hasTimestamp, .long, false, none, Vocabulary.coreDomain⟩ := by decide
  have storable : ∀ object ∈ objects, object.IsStorable .core := by
    intro object listed
    rcases List.mem_cons.1 listed with rfl | listed
    · refine ⟨by decide, by decide, ?_, ?_⟩
      · intro entry member value held
        obtain rfl := List.mem_singleton.1 member
        obtain rfl := List.mem_singleton.1 held
        exact ⟨trivial, rfl⟩
      · intro entry member definition known
        obtain rfl := List.mem_singleton.1 member
        obtain rfl := Option.some.inj (registered.symm.trans known)
        exact ⟨rfl, fun value held => List.mem_singleton.1 held ▸ rfl⟩
    · obtain rfl := List.mem_singleton.1 listed
      have none {entry : String × PropertyValue} (member : entry ∈
          (GraphObject.ofClass "urn:b" Vocabulary.messageClass).properties.entries) : False :=
        List.not_mem_nil member
      exact ⟨by decide, fun _ member => (none member).elim, fun _ member => (none member).elim,
        fun _ member => (none member).elim⟩
  have plain : criteria.Every (Criterion.IsPlain .core) := by
    refine ⟨⟨.inr rfl, _, rfl, by decide⟩, ⟨_, registered, rfl, rfl, ?_, ?_⟩, trivial⟩
    · intro operand member
      obtain rfl := List.mem_singleton.1 member
      exact ⟨rfl, trivial⟩
    · intro name member
      obtain rfl := List.mem_singleton.1 member
      exact ⟨by decide, by decide, _, registered, rfl, rfl⟩
  exact ⟨written, ran, search_refines scope .setAlgebra database objects rows criteria criteria _
    (Database.recordsOf_ofTable _ _) written (by decide) storable (by rfl) plain rfl rfl ran⟩

end GraphSegments
