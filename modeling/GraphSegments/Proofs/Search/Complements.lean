import GraphSegments.Proofs.Search.Leaves
import GraphSegments.Proofs.Search.Transparency
import GraphSegments.Proofs.Values.Exactness

/-!
Comparators and their complements. A criterion on its own in a container and the same criterion with
the complement of its comparator share out objects between them. Where one of the two excludes what
the other finds these are all objects; where the two compare in opposite ways they are the objects
with something to compare, be it in the column of the property or, where a fold answers, in the
column that all rows repeat.
-/

namespace GraphSegments
open Results Dialogue UriSet

namespace Comparator

/-- The comparison that a comparator makes with a single value. Comparators that look for rows, or
for one of several values, make none. -/
def comparison? : Comparator → Option Comparison
  | eq => some .eq
  | ne => some .ne
  | comparator => comparator.bound?

variable {comparator complement : Comparator}

section Comparing

variable {comparison : Comparison} (compares : comparator.comparison? = some comparison)
include compares

theorem isSetNegation_of_comparison : comparator.isSetNegation = false := by
  cases comparator <;> first | rfl | cases compares

theorem takesValue_of_comparison : comparator.takesValue = true := by
  cases comparator <;> first | rfl | cases compares

end Comparing

variable (negation : comparator.negated? = some complement)
include negation

/-- Complements compare in opposite ways. -/
theorem exists_opposite {comparison : Comparison}
    (compares : comparator.comparison? = some comparison) :
    ∃ opposite, complement.comparison? = some opposite ∧
      ∀ ordering, opposite.accepts ordering = !comparison.accepts ordering := by
  cases comparator <;> cases negation <;> cases compares
  all_goals exact ⟨_, rfl, fun ordering => by cases ordering <;> rfl⟩

/-- Of complements that do not compare one excludes what the other finds. -/
theorem isSetNegation_complement (rows : comparator.comparison? = none) :
    complement.isSetNegation = !comparator.isSetNegation := by
  cases comparator <;> cases negation <;> first | rfl | cases rows

end Comparator

/-- The operand of a comparison is something, unless it could be no number. -/
theorem Value.ofParam_operandParam_ne_null (value : Value) (exact : value.kind.isExact = true) :
    Datum.ofParam value.operandParam ≠ .null := by
  cases value with
  | double x | float x | geolocation x => exact absurd exact (by simp [kind, ValueKind.isExact])
  | _ => simp [operandParam, Param.ofValue, Param.ofText, Datum.ofParam]

/-! Where there is something to compare, exactly one of two opposite comparisons passes. -/

namespace Datum

theorem isSome_order {a b : Datum} (first : a ≠ .null) (second : b ≠ .null) :
    (a.order b).isSome = true := by
  cases a <;> cases b <;> first | rfl | contradiction

theorem ofNumberText?_ne_null (text : String) : ofNumberText? text ≠ some .null := by
  unfold ofNumberText?
  grind

/-- What a comparison makes of something is something. -/
theorem operand_ne_null {datum : Datum} (some : datum ≠ .null) (affinity : Affinity) :
    datum.operand affinity ≠ .null := by
  have number (text : String) : (ofNumberText? text).getD (.text text) ≠ .null := by
    cases read : ofNumberText? text with
    | none => simp
    | some number => exact fun empty => ofNumberText?_ne_null text (read.trans (congrArg _ empty))
  cases affinity <;> cases datum <;> first | exact number _ | simp_all [operand]

end Datum

namespace Condition

variable {comparison opposite : Comparison} {param : Param}
  (opposes : ∀ ordering, opposite.accepts ordering = !comparison.accepts ordering)
  (filled : Datum.ofParam param ≠ .null)
include opposes filled

theorem passes_opposite {affinity : Affinity} {datum : Datum} :
    passes opposite param affinity datum ↔
      datum ≠ .null ∧ ¬ passes comparison param affinity datum := by
  by_cases empty : datum = .null
  · simp [empty, (tests_compare opposite param).nothing]
  · obtain ⟨ordering, compared⟩ := Option.isSome_iff_exists.1
      (Datum.isSome_order empty (Datum.operand_ne_null filled affinity))
    simp [passes, compared, opposes, empty]

variable {records : List Record} {rows : Record → Prop} {datum : Record → Datum}
  {affinity : Affinity}

/-- Of the rows that hold something each passes one of two opposite comparisons. -/
theorem passes_or_opposite :
    ((∃ record ∈ records, rows record ∧ passes comparison param affinity (datum record)) ∨
        ∃ record ∈ records, rows record ∧ passes opposite param affinity (datum record)) ↔
      ∃ record ∈ records, rows record ∧ datum record ≠ .null := by
  simp only [passes_opposite opposes filled]
  constructor
  · rintro (⟨record, listed, among, passed⟩ | ⟨record, listed, among, some, -⟩)
    · refine ⟨record, listed, among, fun empty => ?_⟩
      exact (tests_compare comparison param).nothing affinity (empty ▸ passed)
    · exact ⟨record, listed, among, some⟩
  · rintro ⟨record, listed, among, some⟩
    by_cases passed : passes comparison param affinity (datum record)
    · exact .inl ⟨record, listed, among, passed⟩
    · exact .inr ⟨record, listed, among, some, passed⟩

/-- Rows that hold the same do not pass both of two opposite comparisons. -/
theorem not_passes_both
    (alike : ∀ record ∈ records, ∀ other ∈ records, rows record → rows other →
      datum record = datum other) :
    ¬ ((∃ record ∈ records, rows record ∧ passes comparison param affinity (datum record)) ∧
        ∃ record ∈ records, rows record ∧ passes opposite param affinity (datum record)) := by
  simp only [passes_opposite opposes filled]
  rintro ⟨⟨record, listed, among, passed⟩, other, present, within, -, failed⟩
  exact failed (alike record listed other present among within ▸ passed)

end Condition

namespace PropertyCriterion

/-- Compares a property with a value, or looks for its rows, without descendants. -/
def ofValue (property : String) (operand : Option Value) (comparator : Comparator) :
    PropertyCriterion :=
  ⟨property, comparator, operand.map .single, false, false, []⟩

/-! What a fold asks of a criterion on its own. -/

/-- The column, repeated by all rows of an object, that a fold asks for a criterion. -/
def repeatedColumn? (criterion : PropertyCriterion) : Option Column :=
  if criterion.property = Vocabulary.hasChannel then
    if criterion.comparator.isMembership then some .channel else none
  else if criterion.property = Vocabulary.hasTimestamp then
    if (criterion.values.head?.bind Fold.Progress.instant?).isSome &&
      criterion.comparator.bound?.isSome then some .tstamp else none
  else none

/-- What a fold compares that column with. -/
def repeatedParam (criterion : PropertyCriterion) : Param :=
  if criterion.property = Vocabulary.hasChannel then
    .ofText (((criterion.values.filterMap (·.text?)).map versionless).head?.getD "")
  else .i64 ((criterion.values.head?.bind Fold.Progress.instant?).map (·.toInt))

theorem echo?_eq_none_iff {criterion : PropertyCriterion} :
    (Criterion.property criterion).echo? = none ↔ criterion.repeatedColumn? = none := by
  unfold Criterion.echo? repeatedColumn?
  dsimp only
  split
  next => split <;> simp
  next =>
    split
    next =>
      cases criterion.values.head?.bind Fold.Progress.instant? <;>
        cases criterion.comparator.bound? <;> simp
    next => simp

section Repeated

variable {criterion : PropertyCriterion} {column : Column}
  (repeats : criterion.repeatedColumn? = some column)
include repeats

theorem repeatedColumn?_eq_some :
    (criterion.property = Vocabulary.hasChannel ∧ criterion.comparator.isMembership = true ∧
      column = .channel) ∨
    (criterion.property = Vocabulary.hasTimestamp ∧ ∃ instant comparison,
      criterion.values.head?.bind Fold.Progress.instant? = some instant ∧
      criterion.comparator.bound? = some comparison ∧ column = .tstamp) := by
  unfold repeatedColumn? at repeats
  split at repeats
  next same =>
    split at repeats
    next membership => exact .inl ⟨same, membership, (Option.some.inj repeats).symm⟩
    next => exact absurd repeats (by simp)
  next =>
    split at repeats
    next same =>
      split at repeats
      next both =>
        obtain ⟨operand, bound⟩ := Bool.and_eq_true_iff.1 both
        obtain ⟨instant, operand⟩ := Option.isSome_iff_exists.1 operand
        obtain ⟨comparison, bound⟩ := Option.isSome_iff_exists.1 bound
        exact .inr ⟨same, instant, comparison, operand, bound, (Option.some.inj repeats).symm⟩
      next => exact absurd repeats (by simp)
    next => exact absurd repeats (by simp)

/-- A fold compares the column as the criterion compares its property. -/
theorem echo?_of_repeatedColumn? {comparison : Comparison}
    (compares : criterion.comparator.comparison? = some comparison) :
    (Criterion.property criterion).echo? =
      some (.compare (.plain column) comparison criterion.repeatedParam) := by
  rcases repeatedColumn?_eq_some repeats with
    ⟨same, membership, rfl⟩ | ⟨same, instant, bound, operand, bounded, rfl⟩
  · simp only [Criterion.echo?, repeatedParam, if_pos same, membership]
    cases comparator : criterion.comparator <;> rw [comparator] at compares membership
    case eq | ne => exact Option.some.inj compares ▸ rfl
    all_goals first | cases membership; done | cases compares
  · have other : criterion.property ≠ Vocabulary.hasChannel := same ▸ by decide
    have compared : criterion.comparator.bound? = some comparison := by
      cases comparator : criterion.comparator <;> rw [comparator] at compares bounded
      all_goals first | exact compares | cases bounded
    simp only [Criterion.echo?, repeatedParam, if_neg other, if_pos same, operand, compared]
    rfl

theorem repeatedParam_ne_null : Datum.ofParam criterion.repeatedParam ≠ .null := by
  rcases repeatedColumn?_eq_some repeats with ⟨same, -⟩ | ⟨same, instant, -, operand, -⟩
  · simp [repeatedParam, same, Datum.ofParam, Param.ofText]
  · have other : criterion.property ≠ Vocabulary.hasChannel := same ▸ by decide
    simp [repeatedParam, other, operand, Datum.ofParam]

end Repeated

theorem repeatedColumn?_complement {comparator complement : Comparator}
    (negation : comparator.negated? = some complement) (property : String)
    (operand : Option Value) :
    (ofValue property operand complement).repeatedColumn? =
      (ofValue property operand comparator).repeatedColumn? := by
  cases comparator <;> cases negation <;> rfl

/-! What a search for rows asks of a criterion on a registered property. -/

/-- Whether the compiler takes a comparator with a property and an operand. -/
def Suits (definition : PropertyDef) (operand : Option Value) (comparator : Comparator) : Prop :=
  comparator.takesValue = true → operand.isSome = true ∧
    ((definition.multiValued = true ∧ (comparator = .contains ∨ comparator = .notContains)) ∨
      definition.kind.supports comparator = true)

/-- The test of the property's column, for a comparator that has a complement. -/
def test? (definition : PropertyDef) (operand : Option Value) (comparator : Comparator) :
    Option Condition :=
  if comparator.takesValue then
    operand.map fun value => .compare (.plain (.value definition.kind definition.multiValued))
      (comparator.comparison?.getD .eq) value.operandParam
  else none

/-- The rows of the property that pass the test. -/
def rowCondition (property : String) (definition : PropertyDef) (operand : Option Value)
    (comparator : Comparator) : Condition :=
  .all (.columnIs .name (versionless property) :: (test? definition operand comparator).toList)

theorem shallow_test? {definition : PropertyDef} {operand : Option Value} {comparator : Comparator}
    {test : Condition} (asked : test ∈ test? definition operand comparator) :
    test.height ≤ 4 ∧ test.subqueryDepth = 0 := by
  unfold test? at asked
  split at asked
  next =>
    obtain ⟨value, -, rfl⟩ := Option.map_eq_some_iff.1 asked
    simp [Condition.height, Condition.subqueryDepth, Term.height]
  next => exact absurd asked (by simp)

section Compiled

variable {scope : LeafScope} {property : String} {definition : PropertyDef}
  {operand : Option Value} {comparator complement : Comparator}

theorem suits_of_valueCondition?
    (registered : scope.registry.property? property = some definition) {demand : Option Condition}
    (demanded : (ofValue property operand comparator).valueCondition? scope = .ok demand) :
    Suits definition operand comparator := by
  intro takes
  rcases valueCondition?_eq_ok registered demanded with
    ⟨alone, -⟩ | ⟨-, first, rest, -, values, -, supported, -⟩
  · exact absurd (takes.symm.trans alone) (by simp)
  · refine ⟨?_, supported⟩
    cases operand with
    | none => exact absurd values (by simp [ofValue, PropertyCriterion.values])
    | some value => rfl

variable (negation : comparator.negated? = some complement)
include negation

/-- What goes with a comparator goes with its complement. -/
theorem suits_complement (suits : Suits definition operand comparator) :
    Suits definition operand complement := by
  have supports : definition.kind.supports complement = definition.kind.supports comparator := by
    cases comparator <;> cases negation <;> cases definition.kind <;> rfl
  unfold Suits
  rw [supports]
  cases comparator <;> cases negation <;> simp_all [Suits, Comparator.takesValue]

theorem Suits.valueCondition?_eq (suits : Suits definition operand comparator)
    (registered : scope.registry.property? property = some definition) :
    (ofValue property operand comparator).valueCondition? scope =
      .ok (test? definition operand comparator) := by
  cases takes : comparator.takesValue with
  | false =>
    have alone : (ofValue property operand comparator).comparator.takesValue = false := takes
    simp [valueCondition?, test?, alone, takes]
  | true =>
    obtain ⟨given, supported⟩ := suits takes
    obtain ⟨value, rfl⟩ := Option.isSome_iff_exists.1 given
    have values : (ofValue property (some value) comparator).values = [value] := rfl
    rw [valueCondition?_of_registered registered takes values supported, test?, if_pos takes]
    cases comparator <;> cases negation <;> first | rfl | cases takes

/-- A comparator with a complement takes one value or none. -/
theorem Suits.normal (suits : Suits definition operand comparator) (property : String) :
    (Criterion.property (ofValue property operand comparator)).IsNormal := by
  refine ⟨rfl, ?_⟩
  cases operand with
  | none =>
    cases takes : comparator.takesValue with
    | false => simp [ofValue, checkOperand, takes]
    | true => exact absurd (suits takes).1 (by simp)
  | some value => cases comparator <;> cases negation <;> rfl

end Compiled

end PropertyCriterion

/-- A container of nothing but a comparison of a property with a value. -/
def Container.ofValue (connective : Connective) (property : String) (operand : Option Value)
    (comparator : Comparator) : Container :=
  ⟨connective, [.leaf (.property (.ofValue property operand comparator))]⟩

/-! What a search for a criterion on its own finds. -/

namespace SegmentScope

/-- The column that a fold asks for a criterion on its own in a container. -/
def foldedColumn? (scope : SegmentScope) (connective : Connective)
    (criterion : PropertyCriterion) : Option Column :=
  if scope.folding = true ∧ connective = .and then criterion.repeatedColumn? else none

section Found

variable {scope : SegmentScope} {database : Database} {records : List Record}
  (present : database.recordsOf scope.table = .ok records) {connective : Connective}
  {criterion : PropertyCriterion} (normal : (Criterion.property criterion).IsNormal)

theorem repeatedColumn?_of_foldedColumn? {column : Column}
    (folded : scope.foldedColumn? connective criterion = some column) :
    scope.folding = true ∧ connective = .and ∧ criterion.repeatedColumn? = some column := by
  unfold foldedColumn? at folded
  split at folded
  next asked => exact ⟨asked.1, asked.2, folded⟩
  next => exact absurd folded (by simp)

/-- No fold answers for a comparator that looks for rows. -/
theorem foldedColumn?_of_rows {comparator complement : Comparator} (property : String)
    (operand : Option Value) (connective : Connective)
    (negation : comparator.negated? = some complement) (rows : comparator.comparison? = none) :
    scope.foldedColumn? connective (.ofValue property operand comparator) = none := by
  cases folded : scope.foldedColumn? connective (.ofValue property operand comparator) with
  | none => rfl
  | some column =>
    obtain ⟨-, -, repeats⟩ := repeatedColumn?_of_foldedColumn? folded
    rcases PropertyCriterion.repeatedColumn?_eq_some repeats with
      ⟨-, membership, -⟩ | ⟨-, -, comparison, -, bound, -⟩
    · cases comparator <;> cases negation <;> first | cases rows; done | cases membership
    · cases comparator <;> cases negation <;> first | cases rows; done | cases bound

theorem wanted_of_foldedColumn? (unfolded : scope.foldedColumn? connective criterion = none) :
    Fold.wanted scope.folding ⟨connective, [.leaf (.property criterion)]⟩ = .ok none := by
  unfold foldedColumn? at unfolded
  split at unfolded
  next asked =>
    obtain ⟨folding, rfl⟩ := asked
    rw [Fold.wanted, folding]
    exact Fold.ofAnd_alone_eq_none (PropertyCriterion.echo?_eq_none_iff.2 unfolded)
  next unasked =>
    cases folding : scope.folding with
    | false => rfl
    | true =>
      cases connective with
      | or => rfl
      | and => exact absurd ⟨folding, rfl⟩ unasked

include present normal

/-- Without a fold the rows of the property decide. -/
theorem exists_found_by_rows (unfolded : scope.foldedColumn? connective criterion = none)
    {demand : Option Condition}
    (demanded : criterion.valueCondition? scope.toLeafScope = .ok demand)
    (low : ∀ test ∈ demand, test.height ≤ 4 ∧ test.subqueryDepth = 0) (mode : ExecutionMode) :
    ∃ found, (scope.search mode ⟨connective, [.leaf (.property criterion)]⟩).run database =
        .ok found ∧
      ∀ uri, uri ∈ found ↔
        if criterion.comparator.isSetNegation then
          (∃ record ∈ records, record.uri = uri) ∧
            ¬ (Condition.all (criterion.nameCondition :: demand.toList)).Selects database.patterns
              records uri
        else (Condition.all (criterion.nameCondition :: demand.toList)).Selects database.patterns
          records uri := by
  have compiled : (Criterion.property criterion).leafCondition scope.toLeafScope none =
      .ok (.all (criterion.nameCondition :: demand.toList)) := by
    rw [Criterion.leafCondition, Criterion.demand?, demanded]
    rfl
  have composed := Container.condition_leaf (wanted_of_foldedColumn? unfolded) compiled
  refine ⟨_, run_search_alone present normal composed
    (criterion.shallow_leaf demand low connective _) mode, fun uri => ?_⟩
  rw [Condition.mem_found, Criterion.isSetNegation]
  split
  next => exact Condition.selects_join_notAmong connective _ uri
  next => exact Condition.selects_join_among connective _ uri

/-- Where there is a fold, the column that all rows repeat decides. -/
theorem exists_found_by_column {column : Column}
    (folded : scope.foldedColumn? connective criterion = some column) {comparison : Comparison}
    (compares : criterion.comparator.comparison? = some comparison) (mode : ExecutionMode) :
    ∃ found, (scope.search mode ⟨connective, [.leaf (.property criterion)]⟩).run database =
        .ok found ∧
      ∀ uri, uri ∈ found ↔ ∃ record ∈ records, record.uri = uri ∧
        Condition.passes comparison criterion.repeatedParam column.affinity
          (record.cell column) := by
  obtain ⟨folding, rfl, repeats⟩ := repeatedColumn?_of_foldedColumn? folded
  obtain ⟨fold, made, covered, satisfiable, asked⟩ :=
    Fold.exists_ofAnd_alone (PropertyCriterion.echo?_of_repeatedColumn? repeats compares)
  have covers : fold.covers 0 = true := by rw [Fold.covers, covered]; rfl
  have composed :
      Container.condition scope.toLeafScope scope.folding ⟨.and, [.leaf (.property criterion)]⟩ =
        .ok (Container.join .and [.among fold.condition]) := by
    simp only [Container.condition, Container.compose, List.isEmpty_cons, Bool.false_eq_true,
      ite_false, Fold.wanted, folding, ite_true, made, ok_bind, Option.any_some, satisfiable,
      Element.clauses, covers, Option.map_some]
    rfl
  refine ⟨_, run_search_alone present normal composed ?_ mode, fun uri => ?_⟩
  · rw [Condition.depth_join_single, asked]
    simp [Condition.depth, Condition.height, Condition.heights, Condition.joinedHeight,
      Condition.chainHeight, Condition.subqueryDepth, Condition.subqueryDepths, Term.height,
      Database.deepest]
  · rw [Condition.mem_found, Condition.selects_join_among, asked]
    simp only [Condition.Selects, Condition.holds_all, List.forall_mem_singleton,
      (Condition.tests_compare comparison criterion.repeatedParam).holds]

end Found

/-! Complements share out what they find. -/

section Complements

variable {scope : SegmentScope} {database : Database} {records : List Record} {property : String}
  {definition : PropertyDef} {operand : Option Value} {comparator complement : Comparator}

/-- The rows of a property that a comparison selects. -/
theorem selects_comparison {patterns : Patterns} {comparison : Comparison}
    (compares : comparator.comparison? = some comparison) (value : Value) (uri : String) :
    (PropertyCriterion.rowCondition property definition (some value) comparator).Selects patterns
        records uri ↔
      ∃ record ∈ records, (record.uri = uri ∧ record.name = versionless property) ∧
        Condition.passes comparison value.operandParam
          (Column.value definition.kind definition.multiValued).affinity
          (record.cell (.value definition.kind definition.multiValued)) := by
  have takes := Comparator.takesValue_of_comparison compares
  simp only [PropertyCriterion.rowCondition, PropertyCriterion.test?, takes, compares, ite_true,
    Option.map_some, Option.getD_some, Option.toList_some, Condition.Selects, Condition.holds_all,
    List.mem_cons, List.not_mem_nil, or_false, forall_eq_or_imp, forall_eq,
    Condition.holds_columnIs .name rfl (Record.cell_name _),
    (Condition.tests_compare comparison value.operandParam).holds, and_assoc]

theorem foldedColumn?_complement (negation : comparator.negated? = some complement)
    (connective : Connective) :
    scope.foldedColumn? connective (.ofValue property operand complement) =
      scope.foldedColumn? connective (.ofValue property operand comparator) := by
  rw [foldedColumn?, foldedColumn?, PropertyCriterion.repeatedColumn?_complement negation]

variable (present : database.recordsOf scope.table = .ok records)
  (negation : comparator.negated? = some complement)
  (suits : PropertyCriterion.Suits definition operand comparator) {connective : Connective}
  (mode : ExecutionMode)
include present negation suits

section Rows

variable (registered : scope.registry.property? property = some definition)
  (unfolded : scope.foldedColumn? connective (.ofValue property operand comparator) = none)
include registered unfolded

theorem exists_found_ofValue :
    ∃ found, (scope.search mode (.ofValue connective property operand comparator)).run database =
        .ok found ∧
      ∀ uri, uri ∈ found ↔
        if comparator.isSetNegation then
          (∃ record ∈ records, record.uri = uri) ∧
            ¬ (PropertyCriterion.rowCondition property definition operand comparator).Selects
              database.patterns records uri
        else (PropertyCriterion.rowCondition property definition operand comparator).Selects
          database.patterns records uri :=
  exists_found_by_rows present (suits.normal negation property) unfolded
    (suits.valueCondition?_eq negation registered) (fun _ => PropertyCriterion.shallow_test?) mode

/-- Where a criterion looks for rows, it finds what its complement does not find. -/
theorem exists_shared_objects (rows : comparator.comparison? = none) :
    ∃ found others,
      (scope.search mode (.ofValue connective property operand comparator)).run database =
        .ok found ∧
      (scope.search mode (.ofValue connective property operand complement)).run database =
        .ok others ∧
      ∀ uri, (uri ∈ found ∨ uri ∈ others ↔ ∃ record ∈ records, record.uri = uri) ∧
        ¬ (uri ∈ found ∧ uri ∈ others) := by
  obtain ⟨found, ran, mem_found⟩ :=
    exists_found_ofValue present negation suits mode registered unfolded
  obtain ⟨others, reran, mem_others⟩ := exists_found_ofValue present
    (Comparator.negated?_negated? negation) (PropertyCriterion.suits_complement negation suits) mode
    registered ((foldedColumn?_complement negation connective).trans unfolded)
  refine ⟨found, others, ran, reran, fun uri => ?_⟩
  have alike : PropertyCriterion.rowCondition property definition operand complement =
      PropertyCriterion.rowCondition property definition operand comparator := by
    cases comparator <;> cases negation <;> first | rfl | cases rows
  have known (condition : Condition) (selected : condition.Selects database.patterns records uri) :
      ∃ record ∈ records, record.uri = uri := by
    obtain ⟨record, listed, same, -⟩ := selected
    exact ⟨record, listed, same⟩
  have known := known (PropertyCriterion.rowCondition property definition operand comparator)
  rw [mem_found, mem_others, alike, Comparator.isSetNegation_complement negation rows]
  cases comparator.isSetNegation <;> simp only [Bool.not_true, Bool.not_false, ite_true, ite_false,
    Bool.false_eq_true] <;> grind

/-- Where a criterion compares, what it finds and what its complement finds are the objects with
something to compare. -/
theorem exists_shared_rows (exact : definition.kind.isExact = true)
    (kinds : ∀ value ∈ operand, value.kind = definition.kind) {comparison : Comparison}
    (compares : comparator.comparison? = some comparison) :
    ∃ found others,
      (scope.search mode (.ofValue connective property operand comparator)).run database =
        .ok found ∧
      (scope.search mode (.ofValue connective property operand complement)).run database =
        .ok others ∧
      ∀ uri, (uri ∈ found ∨ uri ∈ others ↔
          ∃ record ∈ records, (record.uri = uri ∧ record.name = versionless property) ∧
            record.cell (.value definition.kind definition.multiValued) ≠ .null) ∧
        ((records.filter fun record =>
            record.uri = uri ∧ record.name = versionless property).length ≤ 1 →
          ¬ (uri ∈ found ∧ uri ∈ others)) := by
  obtain ⟨opposite, compared, opposes⟩ := Comparator.exists_opposite negation compares
  obtain ⟨found, ran, mem_found⟩ :=
    exists_found_ofValue present negation suits mode registered unfolded
  obtain ⟨others, reran, mem_others⟩ := exists_found_ofValue present
    (Comparator.negated?_negated? negation) (PropertyCriterion.suits_complement negation suits) mode
    registered ((foldedColumn?_complement negation connective).trans unfolded)
  refine ⟨found, others, ran, reran, fun uri => ?_⟩
  have given := (suits (Comparator.takesValue_of_comparison compares)).1
  obtain ⟨value, rfl⟩ := Option.isSome_iff_exists.1 given
  have filled := value.ofParam_operandParam_ne_null ((kinds value rfl).symm ▸ exact)
  rw [mem_found, mem_others, Comparator.isSetNegation_of_comparison compares,
    Comparator.isSetNegation_of_comparison compared, if_neg Bool.false_ne_true,
    if_neg Bool.false_ne_true, selects_comparison compares, selects_comparison compared]
  refine ⟨Condition.passes_or_opposite opposes filled, fun one => ?_⟩
  have among (record : Record) (listed : record ∈ records)
      (own : record.uri = uri ∧ record.name = versionless property) : record ∈ records.filter
        fun record => record.uri = uri ∧ record.name = versionless property :=
    List.mem_filter.2 ⟨listed, decide_eq_true own⟩
  refine Condition.not_passes_both opposes filled fun record listed other member first second => ?_
  have first := among record listed first
  have second := among other member second
  obtain ⟨only, alone⟩ :=
    List.length_eq_one_iff.1 (Nat.le_antisymm one (List.length_pos_of_mem first))
  rw [alone, List.mem_singleton] at first second
  rw [first, second]

end Rows

theorem exists_shared_column {comparison : Comparison}
    (compares : comparator.comparison? = some comparison) {column : Column}
    (folded : scope.foldedColumn? connective (.ofValue property operand comparator) = some column) :
    ∃ found others,
      (scope.search mode (.ofValue connective property operand comparator)).run database =
        .ok found ∧
      (scope.search mode (.ofValue connective property operand complement)).run database =
        .ok others ∧
      ∀ uri, (uri ∈ found ∨ uri ∈ others ↔
          ∃ record ∈ records, record.uri = uri ∧ record.cell column ≠ .null) ∧
        ((∀ record ∈ records, ∀ other ∈ records, record.uri = uri → other.uri = uri →
            record.cell column = other.cell column) →
          ¬ (uri ∈ found ∧ uri ∈ others)) := by
  have opposed := (foldedColumn?_complement negation connective).trans folded
  obtain ⟨opposite, compared, opposes⟩ := Comparator.exists_opposite negation compares
  obtain ⟨found, ran, mem_found⟩ :=
    exists_found_by_column present (suits.normal negation property) folded compares mode
  obtain ⟨others, reran, mem_others⟩ := exists_found_by_column present
    ((PropertyCriterion.suits_complement negation suits).normal
      (Comparator.negated?_negated? negation) property) opposed compared mode
  have filled :=
    PropertyCriterion.repeatedParam_ne_null (repeatedColumn?_of_foldedColumn? folded).2.2
  refine ⟨found, others, ran, reran, fun uri => ?_⟩
  rw [mem_found, mem_others]
  exact ⟨Condition.passes_or_opposite opposes filled,
    fun alike => Condition.not_passes_both opposes filled alike⟩

end Complements

/-- Complementary comparators share out the objects of a segment. A criterion on its own, on a
property whose kind has no floating-point numbers and with an operand of that kind, can be searched
for together with its complement, in either kind of container and either mode, with or without
probes. Where the two look for rows, each object is found by exactly one of them. Where they
compare, the objects found are those with a row of the property that holds something in the column
of its kind, and none is found by both that has one row of the property at most. Where a fold
answers, which is asked of the column that all rows repeat, they are the objects with a row that
holds something in that column, and none is found by both whose rows repeat one thing there. -/
theorem complements_partition (scope : SegmentScope) (database : Database) (records : List Record)
    (mode : ExecutionMode) (connective : Connective) (property : String) (definition : PropertyDef)
    (operand : Option Value) (comparator complement : Comparator) (demand : Option Condition)
    (present : database.recordsOf scope.table = .ok records)
    (registered : scope.registry.property? property = some definition)
    (exact : definition.kind.isExact = true)
    (kinds : ∀ value ∈ operand, value.kind = definition.kind)
    (negation : comparator.negated? = some complement)
    (compiled : (PropertyCriterion.ofValue property operand comparator).valueCondition?
      scope.toLeafScope = .ok demand) :
    ∃ found others,
      (scope.search mode (.ofValue connective property operand comparator)).run database =
        .ok found ∧
      (scope.search mode (.ofValue connective property operand complement)).run database =
        .ok others ∧
      ∀ uri,
        match comparator.comparison?,
          scope.foldedColumn? connective (.ofValue property operand comparator) with
        | none, _ =>
          (uri ∈ found ∨ uri ∈ others ↔ ∃ record ∈ records, record.uri = uri) ∧
            ¬ (uri ∈ found ∧ uri ∈ others)
        | some _, none =>
          (uri ∈ found ∨ uri ∈ others ↔
            ∃ record ∈ records, (record.uri = uri ∧ record.name = versionless property) ∧
              record.cell (.value definition.kind definition.multiValued) ≠ .null) ∧
          ((records.filter fun record =>
              record.uri = uri ∧ record.name = versionless property).length ≤ 1 →
            ¬ (uri ∈ found ∧ uri ∈ others))
        | some _, some column =>
          (uri ∈ found ∨ uri ∈ others ↔
            ∃ record ∈ records, record.uri = uri ∧ record.cell column ≠ .null) ∧
          ((∀ record ∈ records, ∀ other ∈ records, record.uri = uri → other.uri = uri →
              record.cell column = other.cell column) →
            ¬ (uri ∈ found ∧ uri ∈ others)) := by
  have suits := PropertyCriterion.suits_of_valueCondition? registered compiled
  cases compares : comparator.comparison? with
  | none =>
    exact exists_shared_objects present negation suits mode registered
      (foldedColumn?_of_rows property operand connective negation compares) compares
  | some comparison =>
    cases folded : scope.foldedColumn? connective (.ofValue property operand comparator) with
    | none =>
      exact exists_shared_rows present negation suits mode registered folded exact kinds compares
    | some column => exact exists_shared_column present negation suits mode compares folded

/-- Bounds of a timestamp, from the column in an AND container and from the row in an OR
container, and its presence. -/
theorem complements_partition_stamped :
    let scope : SegmentScope := ⟨⟨.core, .sqlite⟩, "notes", 0, true, true⟩
    let record : Record := .ofRow ⟨"urn:a", Vocabulary.hasTimestamp, Vocabulary.nodeClass, false,
      some 7, none, .long 7, false, none⟩
    let database := Database.ofTable "notes" [record]
    ∀ mode connective, ∀ operand comparator complement,
      (operand, comparator, complement) ∈
          [(some (.long 5), Comparator.ge, Comparator.lt), (none, .present, .absent)] →
      ∃ found others,
        (scope.search mode (.ofValue connective Vocabulary.hasTimestamp operand comparator)).run
          database = .ok found ∧
        (scope.search mode (.ofValue connective Vocabulary.hasTimestamp operand complement)).run
          database = .ok others ∧
        ("urn:a" ∈ found ∨ "urn:a" ∈ others) ∧ ¬ ("urn:a" ∈ found ∧ "urn:a" ∈ others) := by
  intro scope record database mode connective operand comparator complement listed
  let definition : PropertyDef := ⟨Vocabulary.hasTimestamp, .long, false, none, Vocabulary.coreDomain⟩
  have registered : Registry.core.property? Vocabulary.hasTimestamp = some definition := by decide
  simp only [List.mem_cons, Prod.mk.injEq, List.not_mem_nil, or_false] at listed
  rcases listed with ⟨rfl, rfl, rfl⟩ | ⟨rfl, rfl, rfl⟩
  · obtain ⟨found, others, ran, reran, all⟩ := complements_partition scope database [record] mode
      connective Vocabulary.hasTimestamp definition (some (.long 5)) .ge .lt
      (some (.compare (.plain (.value .long false)) .ge (.i64 (some 5))))
      (Database.recordsOf_ofTable _ _) registered rfl (by simp [Value.kind, definition]) rfl rfl
    refine ⟨found, others, ran, reran, ?_⟩
    cases connective with
    | and =>
      obtain ⟨union, apart⟩ := all "urn:a"
      exact ⟨union.2 ⟨record, List.mem_singleton_self record, rfl, by decide⟩,
        apart fun first listed second member _ _ => by
          rw [List.mem_singleton.1 listed, List.mem_singleton.1 member]⟩
    | or =>
      obtain ⟨union, apart⟩ := all "urn:a"
      exact ⟨union.2 ⟨record, List.mem_singleton_self record, ⟨rfl, rfl⟩, by decide⟩,
        apart (List.length_filter_le _ _)⟩
  · obtain ⟨found, others, ran, reran, all⟩ := complements_partition scope database [record] mode
      connective Vocabulary.hasTimestamp definition none .present .absent none
      (Database.recordsOf_ofTable _ _) registered rfl (by simp) rfl rfl
    obtain ⟨union, apart⟩ := all "urn:a"
    exact ⟨found, others, ran, reran, union.2 ⟨record, List.mem_singleton_self record, rfl⟩, apart⟩

/-- A node may hold a channel, but where a fold answers neither side of a comparison finds it; and of
several values of a property one may be found by each side. -/
theorem comparisons_miss_channels_and_share_lists :
    let scope : SegmentScope := ⟨⟨.core, .sqlite⟩, "notes", 0, false, true⟩
    let object := (GraphObject.ofClass "urn:a" Vocabulary.nodeClass).set Vocabulary.hasChannel
      (.single (.uri "urn:c"))
    let rows := (object.toRows .core).toOption.getD []
    let sent (comparator : Comparator) : Container :=
      .ofValue .and Vocabulary.hasChannel (some (.uri "urn:c")) comparator
    let registry := Registry.core.addProperty ⟨"urn:p", .string, true, none, Vocabulary.coreDomain⟩
    let row (text : String) : Record :=
      .ofRow ⟨"urn:a", "urn:p", Vocabulary.nodeClass, false, none, none, .string text, true, none⟩
    let named (comparator : Comparator) : Container :=
      .ofValue .and "urn:p" (some (.string "x")) comparator
    (object.toRows .core = .ok rows ∧
      Registry.core.property? Vocabulary.hasChannel =
        some ⟨Vocabulary.hasChannel, .uri, false, none, Vocabulary.messageDomain⟩ ∧
      ((rows.map Record.ofRow).filter fun record =>
        record.uri = "urn:a" ∧ record.name = Vocabulary.hasChannel).map
          (·.cell (.value .uri false)) = [.text "urn:c"] ∧
      ∀ mode, ∀ comparator ∈ [Comparator.eq, Comparator.ne],
        (scope.search mode (sent comparator)).run
          (Database.ofTable "notes" (rows.map .ofRow)) = .ok []) ∧
    ∀ mode, ∀ comparator ∈ [Comparator.eq, Comparator.ne],
      ({ scope with registry := registry }.search mode (named comparator)).run
        (Database.ofTable "notes" [row "x", row "y"]) = .ok ["urn:a"] := by
  intro scope object rows sent registry row named
  refine ⟨⟨eq_ok_of_toOption (by decide +kernel), by decide, by decide +kernel, ?_⟩, ?_⟩
  all_goals
    intro mode comparator either
    simp only [List.mem_cons, List.not_mem_nil, or_false] at either
    rcases either with rfl | rfl <;> cases mode <;> exact eq_ok_of_toOption (by decide +kernel)

end SegmentScope

end GraphSegments
