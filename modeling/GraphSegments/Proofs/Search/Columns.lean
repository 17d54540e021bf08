import GraphSegments.Proofs.Criteria.NormalForm
import GraphSegments.Proofs.Results
import GraphSegments.Proofs.Search.Conditions
import GraphSegments.Search.Leaf

/-!
What conditions say of the columns of a record, and what the columns of a row hold.
-/

namespace GraphSegments
open Results

namespace Comparator

/-- The comparison that a comparator of bounds makes. -/
def bound? : Comparator → Option Comparison
  | ge => some .ge
  | gt => some .gt
  | le => some .le
  | lt => some .lt
  | _ => none

theorem takesValue_of_isMembership {comparator : Comparator}
    (membership : comparator.isMembership = true) : comparator.takesValue = true := by
  cases comparator <;> simp_all [isMembership, takesValue]

theorem takesValue_of_bound? {comparator : Comparator} {comparison : Comparison}
    (bound : comparator.bound? = some comparison) : comparator.takesValue = true := by
  cases comparator <;> simp_all [bound?, takesValue]

theorem supports_of_bound? {comparator : Comparator} {comparison : Comparison}
    (bound : comparator.bound? = some comparison) : ValueKind.long.supports comparator = true := by
  cases comparator <;> simp_all [bound?, ValueKind.supports]

end Comparator

namespace Condition

variable {patterns : Patterns} {records : List Record} {record : Record}

section Texts

variable (column : Column) {text : String} (textual : column.affinity = .text)
  (cell : record.cell column = .text text)
include textual cell

/-- A column that holds a text is compared with texts as they are. -/
theorem compares_text (comparison : Comparison) (other : String) :
    compares record (.plain column) comparison (.ofText other) =
      comparison.accepts (Ord.compare text other) := by
  simp [compares, Term.datum, Term.operand, cell, textual, Datum.ofParam, Param.ofText,
    Datum.operand, Datum.order]

theorem holds_columnIs (other : String) :
    (columnIs column other).holds patterns records record = true ↔ text = other := by
  simp [columnIs, holds, compares_text column textual cell, Comparison.accepts]

theorem holds_columnIsNot (other : String) :
    (compare (.plain column) .ne (.ofText other)).holds patterns records record = true ↔
      text ≠ other := by
  simp [holds, compares_text column textual cell, Comparison.accepts]

theorem holds_columnIn (texts : List String) :
    (columnIn column texts).holds patterns records record = true ↔ text ∈ texts := by
  simp [columnIn, holds, isAmong, compares_text column textual cell, Comparison.accepts]

theorem holds_columnNotIn (texts : List String) :
    (noneOf column (texts.map .ofText)).holds patterns records record = true ↔
      text ∉ texts := by
  simp only [holds, differsFromAll, List.all_map, List.all_eq_true, Function.comp,
    compares_text column textual cell, Comparison.accepts, bne_iff_ne, ne_eq, Std.compare_eq_iff_eq]
  exact ⟨fun differs member => differs text member rfl,
    fun absent other member same => absent (same ▸ member)⟩

end Texts

/-- A way of testing columns to which nothing matters but what a column holds and what it prefers
to hold. A column that holds nothing does not pass. -/
structure Tests (test : Column → Condition) (passes : Affinity → Datum → Prop) : Prop where
  holds : ∀ patterns records record column,
    (test column).holds patterns records record = true ↔
      passes column.affinity (record.cell column)
  nothing : ∀ affinity, ¬ passes affinity .null

theorem Tests.cell_ne_null {test : Column → Condition} {passes : Affinity → Datum → Prop}
    (tests : Tests test passes) {column : Column}
    (passed : (test column).holds patterns records record = true) : record.cell column ≠ .null := by
  intro empty
  rw [tests.holds, empty] at passed
  exact tests.nothing _ passed

/-- Whether a datum compares with a parameter as asked. -/
def passes (comparison : Comparison) (param : Param) (affinity : Affinity) (datum : Datum) : Prop :=
  (datum.order ((Datum.ofParam param).operand affinity)).any comparison.accepts = true

theorem tests_compare (comparison : Comparison) (param : Param) :
    Tests (fun column => compare (.plain column) comparison param) (passes comparison param) where
  holds patterns records record column := by
    rw [Condition.holds]
    rfl
  nothing affinity := by
    simp [passes, Datum.order]

theorem tests_oneOf (params : List Param) :
    Tests (oneOf · params) fun affinity datum =>
      ∃ param ∈ params, passes .eq param affinity datum where
  holds patterns records record column := by
    simp only [Condition.holds, isAmong, List.any_eq_true]
    rfl
  nothing affinity := by
    intro held
    obtain ⟨param, -, passed⟩ := held
    exact (tests_compare .eq param).nothing affinity passed

theorem tests_noneOf (params : List Param) (named : params ≠ []) :
    Tests (noneOf · params) fun affinity datum =>
      ∀ param ∈ params, passes .ne param affinity datum where
  holds patterns records record column := by
    simp only [Condition.holds, differsFromAll, List.all_eq_true]
    rfl
  nothing affinity := by
    obtain ⟨param, member⟩ := List.exists_mem_of_ne_nil params named
    intro passed
    exact (tests_compare .ne param).nothing affinity (passed param member)

end Condition

/-- What a value leaves in a column of its kind. -/
def Value.datum (value : Value) : Datum :=
  (Datum.ofParam (.ofValue value)).store (Column.value value.kind false).affinity

namespace Record

@[simp] theorem cell_uri (record : Record) : record.cell .uri = .text record.uri := rfl

@[simp] theorem cell_name (record : Record) : record.cell .name = .text record.name := rfl

@[simp] theorem cell_vitaltype (record : Record) :
    record.cell .vitaltype = .text record.vitaltype := rfl

theorem cell_tstamp (row : Row) :
    (ofRow row).cell .tstamp =
      (row.tstamp.map fun instant => Datum.int instant.toInt).getD .null := by
  change stored row .tstamp = _
  cases instant : row.tstamp <;> simp [stored, Row.param, instant] <;> rfl

theorem cell_channel (row : Row) :
    (ofRow row).cell .channel = (row.channel.map Datum.text).getD .null := by
  change stored row .channel = _
  cases channel : row.channel <;> simp [stored, Row.param, channel] <;> rfl

/-- A row fills the column of its value and no other value column. -/
theorem cell_value (row : Row) (kind : ValueKind) (multi : Bool) :
    (ofRow row).cell (.value kind multi) =
      if kind = row.value.kind ∧ multi = row.multi then row.value.datum else .null := by
  have filled : (ofRow row).cell (.value kind multi) =
      (Datum.ofParam (if kind = row.value.kind ∧ multi = row.multi then .ofValue row.value
        else .absent kind)).store (Column.value kind multi).affinity := rfl
  rw [filled]
  split
  next same =>
    obtain ⟨rfl, rfl⟩ := same
    rfl
  next => cases kind <;> rfl

end Record

namespace TypeCriterion

/-- The types that a search compares, in the current vocabulary. -/
def compared (criterion : TypeCriterion) : List String :=
  let types :=
    if criterion.comparator.takesList then criterion.types else criterion.types.take 1
  types.map versionless

theorem exists_of_mem_compared {criterion : TypeCriterion} {type : String}
    (listed : type ∈ criterion.compared) :
    ∃ named ∈ criterion.types, versionless named = type := by
  obtain ⟨named, member, same⟩ := List.mem_map.1 listed
  refine ⟨named, ?_, same⟩
  split at member
  next => exact member
  next => exact List.mem_of_mem_take member

/-- A type criterion that is a condition tests the class of a record. -/
theorem holds_condition {criterion : TypeCriterion} {condition : Condition}
    (compiled : criterion.condition = .ok condition) {patterns : Patterns} {records : List Record}
    (record : Record) :
    condition.holds patterns records record = true ↔
      (criterion.isInclusive = true ↔ record.vitaltype ∈ criterion.compared) := by
  obtain ⟨types, comparator, expand, negated⟩ := criterion
  have cell := record.cell_vitaltype
  cases types with
  | nil => exact absurd compiled (by simp [TypeCriterion.condition])
  | cons first rest =>
    cases comparator with
    | eq =>
      obtain rfl := Except.ok.inj compiled
      rw [Condition.holds_columnIs .vitaltype rfl cell]
      simp [compared, isInclusive, Comparator.takesList]
    | ne =>
      obtain rfl := Except.ok.inj compiled
      rw [Condition.holds_columnIsNot .vitaltype rfl cell]
      simp [compared, isInclusive, Comparator.takesList]
    | oneOf =>
      obtain rfl := Except.ok.inj compiled
      rw [Condition.holds_columnIn .vitaltype rfl cell]
      simp [compared, isInclusive, Comparator.takesList]
    | noneOf =>
      obtain rfl := Except.ok.inj compiled
      refine (Condition.holds_columnNotIn .vitaltype rfl cell
        ((first :: rest).map versionless)).trans ?_
      simp [compared, isInclusive, Comparator.takesList]
    | _ => exact absurd compiled (by simp [TypeCriterion.condition])

theorem exists_condition {criterion : TypeCriterion} (normal : criterion.IsNormal) :
    ∃ condition, criterion.condition = .ok condition := by
  obtain ⟨types, comparator, expand, negated⟩ := criterion
  have membership := normal.membership
  cases types with
  | nil => exact absurd rfl normal.named
  | cons first rest =>
    cases comparator with
    | eq | ne | oneOf | noneOf => exact ⟨_, rfl⟩
    | _ => exact absurd membership (by simp [Comparator.isMembership])

end TypeCriterion

namespace Criterion

/-- The rows of a type criterion are those for the class of an object. -/
theorem leafCondition_type {criterion : TypeCriterion} {condition : Condition}
    (compiled : criterion.condition = .ok condition) (scope : LeafScope) :
    (type criterion).leafCondition scope none =
      .ok (.all [.columnIs .name Vocabulary.vitaltype, condition]) := by
  simp only [leafCondition, demand?, compiled]
  rfl

/-- A type criterion is probed by the rows that satisfy it. -/
theorem probeCondition_type {criterion : TypeCriterion} {condition : Condition}
    (compiled : criterion.condition = .ok condition) :
    (type criterion).probeCondition =
      .ok (.all [.columnIs .name Vocabulary.vitaltype, condition]) := by
  rw [probeCondition, compiled, ok_bind]
  rfl

end Criterion

/-- The rows of a property criterion are those under one of its names. -/
theorem PropertyCriterion.holds_nameCondition (criterion : PropertyCriterion) (patterns : Patterns)
    (records : List Record) (record : Record) :
    criterion.nameCondition.holds patterns records record = true ↔
      record.name ∈ criterion.names.map versionless := by
  have cell := record.cell_name
  unfold nameCondition
  split
  next name one => rw [Condition.holds_columnIs .name rfl cell, one, List.mem_singleton]
  next => rw [Condition.holds_columnIn .name rfl cell]

/-- A criterion on a registered property that is a condition either asks for rows alone or compares
the column of its kind and cardinality. -/
theorem PropertyCriterion.valueCondition?_eq_ok {scope : LeafScope} {criterion : PropertyCriterion}
    {definition : PropertyDef} {demand : Option Condition}
    (registered : scope.registry.property? criterion.property = some definition)
    (demanded : criterion.valueCondition? scope = .ok demand) :
    (criterion.comparator.takesValue = false ∧ demand = none) ∨
      (criterion.comparator.takesValue = true ∧ ∃ first rest test,
        criterion.values = first :: rest ∧ demand = some test ∧
        ((definition.multiValued = true ∧
            (criterion.comparator = .contains ∨ criterion.comparator = .notContains)) ∨
          definition.kind.supports criterion.comparator = true) ∧
        comparison scope criterion.comparator (.value definition.kind definition.multiValued)
          first (first :: rest) = .ok test) := by
  unfold valueCondition? at demanded
  split at demanded
  next none => exact .inl ⟨by simpa using none, (Except.ok.inj demanded).symm⟩
  next takes =>
    refine .inr ⟨by simpa using takes, ?_⟩
    cases values : criterion.values with
    | nil => simp [values] at demanded
    | cons first rest =>
      have column : columnOf scope criterion first = (definition.kind, definition.multiValued) := by
        rw [columnOf, registered]
      simp only [values, column] at demanded
      split at demanded
      next => exact absurd demanded (by simp)
      next supported =>
        obtain ⟨test, compiled, same⟩ := bind_eq_ok.1 demanded
        refine ⟨first, rest, test, rfl, (Except.ok.inj same).symm, ?_, compiled⟩
        cases multi : definition.multiValued with
        | false => exact .inr (by simpa [multi] using supported)
        | true =>
          by_cases several :
            criterion.comparator = .contains ∨ criterion.comparator = .notContains
          · exact .inl ⟨rfl, several⟩
          · rw [not_or] at several
            exact .inr (by simpa [multi, several] using supported)

/-- A criterion on a registered property compares the column of its kind and cardinality. -/
theorem PropertyCriterion.valueCondition?_of_registered {scope : LeafScope}
    {criterion : PropertyCriterion} {definition : PropertyDef} {first : Value} {rest : List Value}
    (registered : scope.registry.property? criterion.property = some definition)
    (takes : criterion.comparator.takesValue = true) (values : criterion.values = first :: rest)
    (supported : (definition.multiValued = true ∧
        (criterion.comparator = .contains ∨ criterion.comparator = .notContains)) ∨
      definition.kind.supports criterion.comparator = true) :
    criterion.valueCondition? scope =
      (comparison scope criterion.comparator
        (.value definition.kind definition.multiValued) first (first :: rest)).map some := by
  have column : columnOf scope criterion first = (definition.kind, definition.multiValued) := by
    rw [columnOf, registered]
  simp only [valueCondition?, takes, values, column, Bool.not_true, Bool.false_eq_true, ite_false]
  rw [if_neg]
  · cases comparison scope criterion.comparator (.value definition.kind definition.multiValued)
      first (first :: rest) <;> rfl
  · rcases supported with ⟨multi, contains | contains⟩ | supported
    · simp [multi, contains]
    · simp [multi, contains]
    · simp [supported]

end GraphSegments
