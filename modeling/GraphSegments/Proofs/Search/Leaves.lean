import GraphSegments.Proofs.Search.Acceptance
import GraphSegments.Proofs.Search.Transparency

/-!
Searches for one property. Such a search comes down to one condition, and it finds the objects with
a row under the name of the property that passes the comparison, whether criteria are probed or
folded and however they are put to the database.
-/

namespace GraphSegments
open Results Dialogue UriSet

namespace Condition

variable {patterns : Patterns} {records : List Record}

theorem mem_found {condition : Condition} {uri : String} :
    uri ∈ condition.found patterns records ↔ condition.Selects patterns records uri := by
  rw [found, mem_ofList, Select.mem_uris_objects]

section Single

variable (connective : Connective)

theorem holds_join_single {record : Record} (clause : Condition) :
    (Container.join connective [clause]).holds patterns records record = true ↔
      clause.holds patterns records record = true := by
  cases connective <;> simp [Container.join, holds_all, holds_any]

/-- Asking for the objects of a condition once more gives the same objects. -/
theorem selects_join_among (inner : Condition) (uri : String) :
    (Container.join connective [.among inner]).Selects patterns records uri ↔
      inner.Selects patterns records uri := by
  simp only [Selects, holds_join_single, holds_among]
  constructor
  · rintro ⟨record, -, rfl, selected⟩
    exact selected
  · rintro ⟨record, listed, rfl, holds⟩
    exact ⟨record, listed, rfl, record, listed, rfl, holds⟩

theorem selects_join_notAmong (inner : Condition) (uri : String) :
    (Container.join connective [.notAmong inner]).Selects patterns records uri ↔
      (∃ record ∈ records, record.uri = uri) ∧ ¬ inner.Selects patterns records uri := by
  simp only [Selects, holds_join_single, holds_notAmong]
  constructor
  · rintro ⟨record, listed, rfl, spared⟩
    exact ⟨⟨record, listed, rfl⟩, spared⟩
  · rintro ⟨⟨record, listed, rfl⟩, spared⟩
    exact ⟨record, listed, rfl, spared⟩

theorem depth_join_single (clause : Condition) :
    (Container.join connective [clause]).depth = clause.depth := by
  cases connective <;> simp [Container.join, depth, height, heights, joinedHeight, chainHeight,
    subqueryDepth, subqueryDepths]

end Single

end Condition

/-- A fold covers no comparison of a property with texts, unless the property is the channel. -/
theorem Fold.wanted_texts {criterion : PropertyCriterion} {folding : Bool}
    (unfolded : folding = false ∨ criterion.property ≠ Vocabulary.hasChannel)
    {texts : List String} (values : criterion.values = texts.map .string) :
    Fold.wanted folding ⟨.and, [.leaf (.property criterion)]⟩ = .ok none := by
  rcases unfolded with rfl | named
  · rfl
  · cases folding with
    | false => rfl
    | true =>
      have instants : criterion.values.head?.bind Fold.Progress.instant? = none := by
        rw [values]
        cases texts <;> rfl
      refine ofAnd_alone_eq_none ?_
      rw [Criterion.echo?, if_neg named, instants]
      split <;> rfl

/-- A criterion that stands alone is not probed. -/
theorem Container.probes_leaf (criterion : Criterion) : probes ⟨.and, [.leaf criterion]⟩ = [] := by
  cases criterion with
  | type criterion =>
    cases negated : criterion.negated <;>
      simp [probes, criteria, positiveCriteria, Criterion.isNegated, negated]
  | property criterion =>
    cases negated : criterion.negated <;> cases exclusive : criterion.comparator.isExclusive <;>
      simp [probes, criteria, positiveCriteria, Criterion.isNegated, negated, exclusive]

/-- A criterion that stands alone and that no fold covers is composed by its own condition. -/
theorem Container.condition_leaf {scope : LeafScope} {folding : Bool} {connective : Connective}
    {criterion : Criterion} {inner : Condition}
    (unfolded : Fold.wanted folding ⟨connective, [.leaf criterion]⟩ = .ok none)
    (compiled : criterion.leafCondition scope none = .ok inner) :
    Container.condition scope folding ⟨connective, [.leaf criterion]⟩ = .ok (join connective
      [if criterion.isSetNegation then .notAmong inner else .among inner]) := by
  simp only [Container.condition, compose, List.isEmpty_cons, Bool.false_eq_true, ite_false,
    unfolded, ok_bind, Option.any_none, Element.clauses, Element.clause, Criterion.clause, compiled]
  split <;> rfl

namespace SegmentScope

variable {scope : SegmentScope} {database : Database} {records : List Record}

/-- A search for one criterion finds what its condition selects, whether it would probe or not. -/
theorem run_search_alone (present : database.recordsOf scope.table = .ok records)
    {connective : Connective} {criterion : Criterion} (normal : criterion.IsNormal)
    {condition : Condition}
    (composed : Container.condition scope.toLeafScope scope.folding
      ⟨connective, [.leaf criterion]⟩ = .ok condition)
    (shallow : condition.depth ≤ Database.deepest) (mode : ExecutionMode) :
    (scope.search mode ⟨connective, [.leaf criterion]⟩).run database =
      .ok (condition.found database.patterns records) := by
  have describes := Reading.describes_ofRecords scope.toLeafScope database.patterns records
  have unprobed : database.recordsOf scope.unprobed.table = .ok records := present
  obtain ⟨found, ran⟩ : ∃ found,
      (scope.unprobed.search mode ⟨connective, [.leaf criterion]⟩).run database = .ok found := by
    cases mode with
    | setAlgebra => exact runs_searchSets unprobed rfl composed
    | singleStatement =>
      exact ⟨_, (run_searchComposed unprobed rfl composed).trans (if_pos shallow)⟩
  have same : found = condition.found database.patterns records := by
    refine (finds_unprobed present describes mode ran).unique (describes.finds_found condition)
      fun uri known => ?_
    rw [Container.selects_condition describes composed, and_iff_right known]
  have trusts : scope.Trusts (.ofRecords scope.toLeafScope database.patterns records)
      database.patterns records (· = [.leaf criterion]) := by
    rintro - elements rfl uri - - probe member
    rw [Container.probes_leaf] at member
    exact absurd member List.not_mem_nil
  have each : Container.EachAnd scope.folding (· = [.leaf criterion])
      ⟨connective, [.leaf criterion]⟩ := ⟨fun _ => rfl, trivial, trivial⟩
  rw [← same]
  exact search_of_unprobed present describes trusts each ⟨normal, trivial⟩ mode ran

end SegmentScope

/-! Comparisons of a property with texts. -/

theorem Term.height_le (term : Term) : term.height ≤ 2 := by
  cases term <;> simp [height]

namespace PropertyCriterion

variable {scope : LeafScope} {comparator : Comparator} {column : Column} {first : Value}
  {values : List Value} {test : Condition}

/-- A comparison has no subqueries, and its tree is a few nodes high. -/
theorem shallow_comparison (compiled : comparison scope comparator column first values = .ok test) :
    test.height ≤ 4 ∧ test.subqueryDepth = 0 := by
  have pattern {term : Term} {param : Param}
      (compiled : patternCondition scope term param = .ok test) :
      test.height ≤ 4 ∧ test.subqueryDepth = 0 := by
    unfold patternCondition at compiled
    split at compiled
    · exact absurd compiled (by simp)
    · obtain rfl := Except.ok.inj compiled
      have low := term.height_le
      exact ⟨by rw [Condition.height]; omega, rfl⟩
  cases comparator with
  | containsCaseInsensitive | eqCaseInsensitive =>
    obtain ⟨param, -, compiled⟩ := bind_eq_ok.1 compiled
    obtain rfl := Except.ok.inj compiled
    simp [Condition.height, Condition.subqueryDepth, Term.height]
  | regexp =>
    obtain ⟨param, -, compiled⟩ := bind_eq_ok.1 compiled
    exact pattern compiled
  | regexpCaseSensitive => exact pattern compiled
  | oneOf | noneOf =>
    obtain rfl := Except.ok.inj compiled
    simp only [Condition.height, Condition.subqueryDepth, and_true]
    grind
  | _ =>
    obtain rfl := Except.ok.inj compiled
    simp [Condition.height, Condition.subqueryDepth, Term.height, Condition.heights,
      Condition.joinedHeight, Condition.subqueryDepths]

/-- A search for rows of a property that make a shallow test is shallow. -/
theorem shallow_leaf (criterion : PropertyCriterion) (demand : Option Condition)
    (low : ∀ test ∈ demand, test.height ≤ 4 ∧ test.subqueryDepth = 0) (connective : Connective)
    (excludes : Bool) :
    let leaf : Condition := .all (criterion.nameCondition :: demand.toList)
    (Container.join connective [if excludes then .notAmong leaf else .among leaf]).depth ≤
      Database.deepest := by
  intro leaf
  have named : criterion.nameCondition.height ≤ 3 ∧ criterion.nameCondition.subqueryDepth = 0 := by
    unfold nameCondition
    split
    next => exact ⟨Nat.le_succ 2, rfl⟩
    next =>
      refine ⟨?_, rfl⟩
      rw [Condition.columnIn, Condition.height]
      split <;> omega
  have bounded : leaf.height ≤ 5 ∧ leaf.subqueryDepth = 0 := by
    cases demand with
    | none =>
      simp [leaf, Condition.height, Condition.heights, Condition.joinedHeight,
        Condition.chainHeight, Condition.subqueryDepth, Condition.subqueryDepths, named]
      omega
    | some test =>
      obtain ⟨below, flat⟩ := low test rfl
      simp [leaf, Condition.height, Condition.heights, Condition.joinedHeight,
        Condition.chainHeight, Condition.subqueryDepth, Condition.subqueryDepths, named, flat]
      omega
  rw [Condition.depth_join_single]
  cases excludes <;>
    simp only [Bool.false_eq_true, ite_false, ite_true, Condition.depth, Condition.height,
      Condition.subqueryDepth, Database.deepest] <;> omega

end PropertyCriterion

namespace SegmentScope

/-- The objects of a segment whose property compares with an operand as asked. -/
def objectsBy (scope : SegmentScope) (database : Database) (mode : ExecutionMode)
    (property : String) (comparator : Comparator) (operand : Operand) : Except Error UriSet := do
  let criterion : PropertyCriterion := ⟨property, comparator, some operand, false, false, []⟩
  let criteria ← Container.normalize scope.registry ⟨.and, [.leaf (.property criterion)]⟩
  (scope.search mode criteria).run database

/-- A property of texts that criteria can ask for by its name: it does not stand for another one,
and no fold answers for its rows. -/
structure IsTextual (scope : SegmentScope) (property : String) (definition : PropertyDef) :
    Prop where
  registered : scope.registry.property? property = some definition
  kind : definition.kind = .string
  named : property ≠ Vocabulary.uriPseudo
  unfolded : scope.folding = false ∨ property ≠ Vocabulary.hasChannel

/-- A comparator goes with a property of texts and with an operand, and passes what the column of
the property may hold. -/
structure Asks (scope : SegmentScope) (property : String) (definition : PropertyDef)
    (comparator : Comparator) (operand : Operand) (passes : Datum → Prop) : Prop where
  fits : PropertyCriterion.checkCardinality property definition comparator = .ok ()
  shaped : (⟨property, comparator, some operand, false, false, []⟩ :
    PropertyCriterion).checkOperand = .ok ()
  supported : ValueKind.string.supports comparator = true
  takes : comparator.takesValue = true
  tested : ∃ first rest test, operand.values = (first :: rest).map Value.string ∧
    PropertyCriterion.comparison scope.toLeafScope comparator
      (.value .string definition.multiValued) (.string first) ((first :: rest).map .string) =
        .ok test ∧
    ∀ patterns records record, test.holds patterns records record = true ↔
      passes (record.cell (.value .string definition.multiValued))

variable {scope : SegmentScope} {database : Database} {records : List Record}
  {property : String} {definition : PropertyDef} {comparator : Comparator} {operand : Operand}

theorem Asks.positive {passes : Datum → Prop}
    (asks : scope.Asks property definition comparator operand passes) :
    comparator.isSetNegation = false := by
  have supported := asks.supported
  have takes := asks.takes
  cases comparator <;> simp_all [ValueKind.supports, Comparator.isSetNegation,
    Comparator.takesValue, Comparator.isMembership]

section Textual

variable (textual : scope.IsTextual property definition)
include textual

/-- A criterion on a property of texts is in normal form if its comparator goes with the
cardinality of the property and with the operand. -/
theorem IsTextual.objectsBy_eq (mode : ExecutionMode) :
    let criterion : PropertyCriterion := ⟨property, comparator, some operand, false, false, []⟩
    scope.objectsBy database mode property comparator operand = (do
      PropertyCriterion.checkCardinality property definition comparator
      criterion.checkOperand
      (scope.search mode ⟨.and, [.leaf (.property criterion)]⟩).run database) := by
  intro criterion
  have resolved : criterion.resolve scope.registry = (do
      PropertyCriterion.checkCardinality property definition comparator
      criterion.checkOperand
      return criterion) := by
    simp only [PropertyCriterion.resolve, criterion, if_neg textual.named, textual.registered]
    rfl
  simp only [objectsBy, Container.normalize, Element.traverseAll, Element.traverse,
    Criterion.resolve]
  rw [resolved]
  cases PropertyCriterion.checkCardinality property definition comparator with
  | error error => rfl
  | ok passed =>
    cases criterion.checkOperand with
    | error error => rfl
    | ok passed => rfl

/-- The objects found are those with a row under the current name of the property whose column
passes. -/
theorem IsTextual.exists_objectsBy (present : database.recordsOf scope.table = .ok records)
    (mode : ExecutionMode) {passes : Datum → Prop}
    (asks : scope.Asks property definition comparator operand passes) :
    ∃ found, scope.objectsBy database mode property comparator operand = .ok found ∧
      ∀ uri, uri ∈ found ↔ ∃ record ∈ records, record.uri = uri ∧
        record.name = versionless property ∧
          passes (record.cell (.value .string definition.multiValued)) := by
  let criterion : PropertyCriterion := ⟨property, comparator, some operand, false, false, []⟩
  obtain ⟨first, rest, test, values, compiled, holds⟩ := asks.tested
  have demanded : criterion.valueCondition? scope.toLeafScope = .ok (some test) := by
    have registered : scope.registry.property? criterion.property = some definition :=
      textual.registered
    have listed : criterion.values = .string first :: rest.map .string := values
    rw [PropertyCriterion.valueCondition?_of_registered registered asks.takes listed
      (.inr (textual.kind ▸ asks.supported)), textual.kind]
    exact congrArg (Except.map some) compiled
  have leaf : (Criterion.property criterion).leafCondition scope.toLeafScope none =
      .ok (.all [criterion.nameCondition, test]) := by
    rw [Criterion.leafCondition, Criterion.demand?, demanded]
    rfl
  have positive : (Criterion.property criterion).isSetNegation = false := asks.positive
  have unfolded : Fold.wanted scope.folding ⟨.and, [.leaf (.property criterion)]⟩ = .ok none :=
    Fold.wanted_texts textual.unfolded values
  have composed := Container.condition_leaf unfolded leaf
  rw [positive, if_neg Bool.false_ne_true] at composed
  have shallow := PropertyCriterion.shallow_leaf criterion (some test)
    (fun test asked => Option.some.inj asked ▸ PropertyCriterion.shallow_comparison compiled)
    .and false
  refine ⟨(Container.join .and [.among (.all [criterion.nameCondition, test])]).found
    database.patterns records, (textual.objectsBy_eq mode).trans ?_, fun uri => ?_⟩
  · rw [asks.fits, ok_bind, asks.shaped, ok_bind]
    have normal : (Criterion.property criterion).IsNormal := ⟨rfl, asks.shaped⟩
    exact run_search_alone present normal composed shallow mode
  · have name : criterion.names.map versionless = [versionless property] := rfl
    rw [Condition.mem_found, Condition.selects_join_among]
    simp only [Condition.Selects, Condition.holds_all, List.mem_cons, List.not_mem_nil, or_false,
      forall_eq_or_imp, forall_eq, criterion.holds_nameCondition, name, holds]

end Textual

end SegmentScope

end GraphSegments
