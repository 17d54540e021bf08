import GraphSegments.Proofs.Criteria.NormalForm
import GraphSegments.Proofs.Search.Folds

/-!
Tables in which every row of an object repeats its class, its timestamp and its channel, and says
the same as the object's rows of those properties. There a criterion that can be merged into a fold
means what any row of the object tells of it.
-/

namespace GraphSegments
open Results

namespace Row

/-- The values that an object has under a name, each with its cardinality. -/
def held (rows : List Row) (uri name : String) : List (Value × Bool) :=
  (rows.filter fun row => row.uri == uri && row.name == name).map fun row => (row.value, row.multi)

/-- The columns that rows repeat say the same in all rows of an object, and the same as the rows of
the properties from which they are taken. -/
structure Consistent (rows : List Row) : Prop where
  vitaltype : ∀ a ∈ rows, ∀ b ∈ rows, a.uri = b.uri → a.vitaltype = b.vitaltype
  tstamp : ∀ a ∈ rows, ∀ b ∈ rows, a.uri = b.uri → a.tstamp = b.tstamp
  channel : ∀ a ∈ rows, ∀ b ∈ rows, a.uri = b.uri → a.channel = b.channel
  typed : ∀ row ∈ rows, (held rows row.uri Vocabulary.vitaltype).length = 1
  instants : ∀ row ∈ rows, held rows row.uri Vocabulary.hasTimestamp =
    (row.tstamp.map fun instant => (.long instant, false)).toList
  channels : ∀ row ∈ rows, held rows row.uri Vocabulary.hasChannel =
    (row.channel.map fun channel => (.uri channel, false)).toList

theorem mem_held {rows : List Row} {uri name : String} {value : Value} {multi : Bool} :
    (value, multi) ∈ held rows uri name ↔
      ∃ row ∈ rows, row.uri = uri ∧ row.name = name ∧ row.value = value ∧ row.multi = multi := by
  simp [held, and_assoc]

end Row

namespace Registry

/-- The timestamp and the channel are what the core vocabulary says. -/
structure KeepsCore (registry : Registry) : Prop where
  timestamp : registry.property? Vocabulary.hasTimestamp =
    core.property? Vocabulary.hasTimestamp
  channel : registry.property? Vocabulary.hasChannel = core.property? Vocabulary.hasChannel

theorem KeepsCore.property?_hasTimestamp {registry : Registry} (keeps : registry.KeepsCore) :
    registry.property? Vocabulary.hasTimestamp =
      some ⟨Vocabulary.hasTimestamp, .long, false, none, Vocabulary.coreDomain⟩ :=
  keeps.timestamp.trans (by decide)

theorem KeepsCore.property?_hasChannel {registry : Registry} (keeps : registry.KeepsCore) :
    registry.property? Vocabulary.hasChannel =
      some ⟨Vocabulary.hasChannel, .uri, false, none, Vocabulary.messageDomain⟩ :=
  keeps.channel.trans (by decide)

end Registry

namespace Criterion

/-- A criterion that a fold reads as a search of rows does: types are given in the current
vocabulary, one where only one is compared, and the timestamp and the channel without
descendants. -/
def IsSettled : Criterion → Prop
  | type criterion =>
    (criterion.comparator = .eq ∨ criterion.comparator = .ne → ∃ type, criterion.types = [type]) ∧
      ∀ type ∈ criterion.types, versionless type = type
  | property criterion =>
    (criterion.property = Vocabulary.hasTimestamp ∨ criterion.property = Vocabulary.hasChannel →
      criterion.expanded = []) ∧
    (criterion.property = Vocabulary.hasChannel →
      ∀ value ∈ criterion.values, ∃ uri, value = .uri uri)

end Criterion

theorem TypeCriterion.compared_of_settled {criterion : TypeCriterion} (normal : criterion.IsNormal)
    (settled : (Criterion.type criterion).IsSettled) : criterion.compared = criterion.types := by
  obtain ⟨single, current⟩ := settled
  have named : (if criterion.comparator.takesList then criterion.types
      else criterion.types.take 1) = criterion.types := by
    have membership := normal.membership
    cases comparator : criterion.comparator with
    | oneOf | noneOf => rfl
    | eq | ne =>
      obtain ⟨type, one⟩ := single (by simp [comparator])
      simp [Comparator.takesList, one]
    | _ => simp [comparator, Comparator.isMembership] at membership
  rw [compared, named]
  exact (List.map_congr_left current).trans (List.map_id _)

section Echoes

variable (patterns : Patterns) {rows : List Row}

/-- The rows under a name select an object by a column if one of those of the object passes. -/
theorem Condition.selects_named {test : Column → Condition} {passes : Affinity → Datum → Prop}
    (tests : Tests test passes) (name : String) (column : Column) (uri : String) :
    (Condition.all [.columnIs .name name, test column]).Selects patterns (rows.map .ofRow) uri ↔
      ∃ row ∈ rows, row.uri = uri ∧ row.name = name ∧
        passes column.affinity ((Record.ofRow row).cell column) := by
  rw [selects_rows]
  simp only [holds_all, List.mem_cons, List.not_mem_nil, or_false, forall_eq_or_imp, forall_eq,
    tests.holds, holds_columnIs .name rfl (Record.cell_name _)]
  rfl

/-- A column that repeats the only value of a property is tested in place of the value column. -/
theorem Condition.selects_held {α : Type} {row : Row} {name : String} {kind : ValueKind}
    {content : Option α} (wrap : α → Value) (column : Column) {test : Column → Condition}
    {passes : Affinity → Datum → Prop} (tests : Tests test passes)
    (kinds : ∀ a, (wrap a).kind = kind)
    (held : Row.held rows row.uri name = (content.map fun a => (wrap a, false)).toList)
    (affinity : column.affinity = (Column.value kind false).affinity)
    (cell : (Record.ofRow row).cell column = (content.map fun a => (wrap a).datum).getD .null) :
    (Condition.all [.columnIs .name name, test (.value kind false)]).Selects patterns
        (rows.map .ofRow) row.uri ↔
      (test column).holds patterns (rows.map .ofRow) (.ofRow row) = true := by
  rw [selects_named patterns tests, tests.holds, affinity, cell]
  simp only [Record.cell_value]
  cases content with
  | none =>
    constructor
    · intro found
      obtain ⟨other, present, same, named, -⟩ := found
      have listed := Row.mem_held.2 ⟨other, present, same, named, rfl, rfl⟩
      simp [held] at listed
    · exact fun passed => absurd passed (tests.nothing _)
  | some a =>
    have only {value : Value} {multi : Bool} :
        (value, multi) ∈ Row.held rows row.uri name ↔ value = wrap a ∧ multi = false := by
      simp [held]
    constructor
    · intro found
      obtain ⟨other, present, same, named, passed⟩ := found
      obtain ⟨value, multi⟩ := only.1 (Row.mem_held.2 ⟨other, present, same, named, rfl, rfl⟩)
      rw [if_pos ⟨by rw [value, kinds], multi.symm⟩, value] at passed
      exact passed
    · intro passed
      obtain ⟨other, present, same, named, value, multi⟩ := Row.mem_held.1 (only.2 ⟨rfl, rfl⟩)
      refine ⟨other, present, same, named, ?_⟩
      rw [if_pos ⟨by rw [value, kinds], multi.symm⟩, value]
      exact passed

/-- A type criterion means what the class in any row tells, because each object has a row for its
class. -/
theorem Criterion.selects_type (scope : LeafScope) (consistent : Row.Consistent rows)
    {criterion : TypeCriterion} (normal : criterion.IsNormal) {row : Row} (member : row ∈ rows) :
    ∃ condition, (Criterion.type criterion).leafCondition scope none = .ok condition ∧
      (condition.Selects patterns (rows.map .ofRow) row.uri ↔
        (criterion.isInclusive = true ↔ row.vitaltype ∈ criterion.compared)) := by
  obtain ⟨condition, compiled⟩ := criterion.exists_condition normal
  refine ⟨_, leafCondition_type compiled scope, ?_⟩
  rw [Condition.selects_rows]
  simp only [Condition.holds_all, List.mem_cons, List.not_mem_nil, or_false, forall_eq_or_imp,
    forall_eq, criterion.holds_condition compiled,
    Condition.holds_columnIs .name rfl (Record.cell_name _)]
  constructor
  · intro found
    obtain ⟨other, present, same, -, accepted⟩ := found
    rwa [← consistent.vitaltype other present row member same]
  · intro accepted
    obtain ⟨⟨value, multi⟩, only⟩ := List.length_eq_one_iff.1 (consistent.typed row member)
    have listed : (value, multi) ∈ Row.held rows row.uri Vocabulary.vitaltype := by simp [only]
    obtain ⟨other, present, same, named, -⟩ := Row.mem_held.1 listed
    refine ⟨other, present, same, named, ?_⟩
    change _ ↔ other.vitaltype ∈ _
    rwa [consistent.vitaltype other present row member same]

section Tested

variable {scope : LeafScope} {criterion : PropertyCriterion} {definition : PropertyDef}
  {first : Value} {rest : List Value}
  (registered : scope.registry.property? criterion.property = some definition)
  (single : definition.multiValued = false) (takes : criterion.comparator.takesValue = true)
  (values : criterion.values = first :: rest)
  (supported : definition.kind.supports criterion.comparator = true)
  (names : criterion.expanded = [])
  (current : versionless criterion.property = criterion.property)
  {test : Column → Condition}
  (compares : ∀ column, PropertyCriterion.comparison scope criterion.comparator column first
    (first :: rest) = .ok (test column))
include registered single takes values supported names current compares

/-- A criterion on a single-valued property, when it is compared with nothing but a test of the
property's column, looks for rows under its name that pass the test. -/
theorem PropertyCriterion.leafCondition_of_test :
    (Criterion.property criterion).leafCondition scope none =
      .ok (.all [.columnIs .name criterion.property, test (.value definition.kind false)]) := by
  have subject : criterion.nameCondition = .columnIs .name criterion.property := by
    simp [nameCondition, PropertyCriterion.names, names, current]
  have demand := valueCondition?_of_registered registered takes values (.inr supported)
  rw [single, compares] at demand
  simp only [Criterion.leafCondition, Criterion.demand?, demand, Criterion.subject, subject]
  rfl

/-- Where rows repeat the property, it means what the test tells of the repeating column. -/
theorem PropertyCriterion.selects_repeated {α : Type} {passes : Affinity → Datum → Prop}
    (tests : Condition.Tests test passes)
    {row : Row} {content : Option α} (wrap : α → Value) (column : Column)
    (kinds : ∀ a, (wrap a).kind = definition.kind)
    (held : Row.held rows row.uri criterion.property =
      (content.map fun a => (wrap a, false)).toList)
    (affinity : column.affinity = (Column.value definition.kind false).affinity)
    (cell : (Record.ofRow row).cell column = (content.map fun a => (wrap a).datum).getD .null) :
    ∃ condition, (Criterion.property criterion).leafCondition scope none = .ok condition ∧
      (condition.Selects patterns (rows.map .ofRow) row.uri ↔
        (test column).holds patterns (rows.map .ofRow) (.ofRow row) = true) :=
  ⟨_, leafCondition_of_test registered single takes values supported names current compares,
    Condition.selects_held patterns wrap column tests kinds held affinity cell⟩

end Tested

/-- A channel criterion and the fold that covers it test their columns alike. -/
theorem Fold.exists_channel_test (scope : LeafScope) {criterion : PropertyCriterion}
    (normal : criterion.IsNormal) (membership : criterion.comparator.isMembership = true)
    (channels : ∀ value ∈ criterion.values, ∃ uri, value = .uri uri) :
    ∃ first rest test passes, criterion.values = first :: rest ∧
      Condition.Tests test passes ∧
      (∀ column, PropertyCriterion.comparison scope criterion.comparator column first
        (first :: rest) = .ok (test column)) ∧
      Fold.channelCondition ⟨criterion.comparator, criterion.values.filterMap (·.text?)⟩ =
        test .channel := by
  have shape := normal.values (Comparator.takesValue_of_isMembership membership)
  have texts : (criterion.values.filterMap (·.text?)).map (Param.ofText ∘ versionless) =
      criterion.values.map (·.operandParam) := by
    generalize criterion.values = values at channels
    induction values with
    | nil => rfl
    | cons value rest ih =>
      obtain ⟨uri, rfl⟩ := channels value List.mem_cons_self
      have tail := ih fun other member => channels other (List.mem_cons_of_mem _ member)
      exact congrArg (Param.ofText (versionless uri) :: ·) tail
  cases comparator : criterion.comparator with
  | eq =>
    rw [comparator] at shape
    obtain ⟨value, one⟩ := shape
    obtain ⟨uri, rfl⟩ := channels value (one ▸ List.mem_singleton_self value)
    refine ⟨_, _, _, _, one, Condition.tests_compare .eq (.ofText (versionless uri)),
      fun column => rfl, ?_⟩
    simp [one, channelCondition, Value.text?, Condition.columnIs]
  | ne =>
    rw [comparator] at shape
    obtain ⟨value, one⟩ := shape
    obtain ⟨uri, rfl⟩ := channels value (one ▸ List.mem_singleton_self value)
    refine ⟨_, _, _, _, one, Condition.tests_compare .ne (.ofText (versionless uri)),
      fun column => rfl, ?_⟩
    simp [one, channelCondition, Value.text?]
  | oneOf =>
    rw [comparator] at shape
    obtain ⟨first, rest, some⟩ := List.exists_cons_of_ne_nil shape
    refine ⟨first, rest, _, _, some, Condition.tests_oneOf (criterion.values.map (·.operandParam)),
      fun column => some ▸ rfl, ?_⟩
    simp [channelCondition, Condition.columnIn, texts]
  | noneOf =>
    rw [comparator] at shape
    obtain ⟨first, rest, some⟩ := List.exists_cons_of_ne_nil shape
    refine ⟨first, rest, _, _, some, Condition.tests_noneOf
      (criterion.values.map (·.operandParam)) (by simp [some]), fun column => some ▸ rfl, ?_⟩
    simp [channelCondition, texts]
  | _ => simp [comparator, Comparator.isMembership] at membership

/-- The number that a fold takes from an operand is the one that a comparison takes. -/
theorem Fold.ofParam_operandParam {value : Value} {instant : Int64}
    (read : Progress.instant? value = some instant) :
    Datum.ofParam value.operandParam = Datum.ofParam (.i64 (some instant.toInt)) := by
  cases value <;> simp_all [Progress.instant?, Value.operandParam, Param.ofValue, Datum.ofParam]
  all_goals subst read; simp

theorem Fold.exists_timestamp_test (scope : LeafScope) {criterion : PropertyCriterion}
    {instant : Int64} {comparison : Comparison}
    (operand : criterion.values.head?.bind Progress.instant? = some instant)
    (bound : criterion.comparator.bound? = some comparison) :
    ∃ first rest, criterion.values = first :: rest ∧
      (∀ column, PropertyCriterion.comparison scope criterion.comparator column first
        (first :: rest) = .ok (.compare (.plain column) comparison first.operandParam)) ∧
      Datum.ofParam first.operandParam = Datum.ofParam (.i64 (some instant.toInt)) := by
  cases values : criterion.values with
  | nil => simp [values] at operand
  | cons first rest =>
    rw [values] at operand
    refine ⟨first, rest, rfl, fun column => ?_, ofParam_operandParam operand⟩
    cases comparator : criterion.comparator <;> rw [comparator] at bound
    case ge | gt | le | lt => exact Option.some.inj bound ▸ rfl
    all_goals exact absurd bound (by simp [Comparator.bound?])

/-- On a consistent table a criterion that a fold can cover means what any row tells of it. -/
theorem Criterion.selects_echo {scope : LeafScope}
    (keeps : scope.registry.KeepsCore)
    (consistent : Row.Consistent rows) {criterion : Criterion} (normal : criterion.IsNormal)
    (settled : criterion.IsSettled) (echoed : criterion.echo?.isSome = true) {row : Row}
    (member : row ∈ rows) :
    ∃ condition, criterion.leafCondition scope none = .ok condition ∧
      (condition.Selects patterns (rows.map .ofRow) row.uri ↔
        criterion.Echoes patterns (rows.map .ofRow) (.ofRow row)) := by
  cases criterion with
  | type criterion =>
    obtain ⟨condition, compiled, selects⟩ :=
      selects_type patterns scope consistent normal member
    refine ⟨condition, compiled, ?_⟩
    rw [selects, echoes_type, TypeCriterion.compared_of_settled normal settled]
    rfl
  | property criterion =>
    obtain ⟨echo, told⟩ := Option.isSome_iff_exists.1 echoed
    simp only [Echoes, told, Option.some.injEq, exists_eq_left']
    obtain ⟨unexpanded, channels⟩ := settled
    rcases echo?_property told with
      ⟨same, membership, rfl⟩ | ⟨same, instant, comparison, operand, bound, rfl⟩
    · obtain ⟨first, rest, test, passes, values, tests, compares, channel⟩ :=
        Fold.exists_channel_test scope normal membership (channels same)
      rw [channel]
      exact criterion.selects_repeated patterns (same ▸ keeps.property?_hasChannel) rfl
        (Comparator.takesValue_of_isMembership membership) values
        (by simp [ValueKind.supports, membership]) (unexpanded (.inr same))
        (same ▸ by decide) compares tests .uri .channel (fun _ => rfl)
        (same ▸ consistent.channels row member) rfl (Record.cell_channel row)
    · obtain ⟨first, rest, values, compares, number⟩ :=
        Fold.exists_timestamp_test scope operand bound
      obtain ⟨condition, compiled, selects⟩ := criterion.selects_repeated patterns
        (same ▸ keeps.property?_hasTimestamp) rfl (Comparator.takesValue_of_bound? bound) values
        (Comparator.supports_of_bound? bound) (unexpanded (.inl same)) (same ▸ by decide)
        compares (Condition.tests_compare comparison first.operandParam) .long .tstamp
        (fun _ => rfl) (same ▸ consistent.instants row member) rfl (Record.cell_tstamp row)
      refine ⟨condition, compiled, selects.trans ?_⟩
      rw [(Condition.tests_compare comparison _).holds,
        (Condition.tests_compare comparison _).holds, Condition.passes, Condition.passes, number]

end Echoes

end GraphSegments
