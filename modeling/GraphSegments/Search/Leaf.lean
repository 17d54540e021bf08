import GraphSegments.Criteria.Fold
import GraphSegments.Ontology
import GraphSegments.Sql.Dialect
import GraphSegments.Sql.Statement
import GraphSegments.Text.Case

/-!
Criteria as conditions on the rows of a segment table.
-/

namespace GraphSegments

/-- Whether a comparator goes with single values of a kind. -/
def ValueKind.supports (kind : ValueKind) (comparator : Comparator) : Bool :=
  let basic := comparator.isMembership || comparator == .present || comparator == .absent
  match kind with
  | .boolean | .truth | .uri => basic
  | .date | .double | .float | .integer | .long =>
    basic || [Comparator.ge, .gt, .le, .lt].contains comparator
  | .string =>
    basic || [Comparator.containsCaseSensitive, .containsCaseInsensitive, .eqCaseInsensitive,
      .regexp, .regexpCaseSensitive].contains comparator
  | .geolocation | .other => false

/-- Where criteria become conditions. -/
structure LeafScope where
  registry : Registry
  dialect : Dialect

/-- The parameter of an operand. URIs are stored in the current vocabulary. -/
def Value.operandParam : Value → Param
  | .uri text => .ofText (versionless text)
  | value => .ofValue value

/-- The parameter of an operand in lower case. -/
def Value.loweredParam (value : Value) : Except Error Param :=
  match value.text? with
  | some text => .ok (.ofText (Text.lower text))
  | none => .error (.query .textRequired)

namespace PropertyCriterion

/-- The names under which rows have the properties of a criterion. -/
def nameCondition (criterion : PropertyCriterion) : Condition :=
  match criterion.names.map versionless with
  | [name] => .columnIs .name name
  | names => .columnIn .name names

/-- The kind and cardinality of the column to compare. Of an unregistered property the operand and
the comparator tell them. -/
def columnOf (scope : LeafScope) (criterion : PropertyCriterion) (first : Value) :
    ValueKind × Bool :=
  match scope.registry.property? criterion.property with
  | some definition => (definition.kind, definition.multiValued)
  | none =>
    (first.kind, criterion.comparator == .contains || criterion.comparator == .notContains)

/-- A match with a pattern, where the dialect has patterns. -/
def patternCondition (scope : LeafScope) (term : Term) (pattern : Param) :
    Except Error Condition :=
  if scope.dialect = .sqlite then .error (.query .noPatterns)
  else .ok (.matchesPattern term pattern)

/-- The comparison of a column with the operand; `first` is the first of `values`. -/
def comparison (scope : LeafScope) (comparator : Comparator) (column : Column)
    (first : Value) (values : List Value) : Except Error Condition :=
  let compare (comparison : Comparison) : Except Error Condition :=
    .ok (.compare (.plain column) comparison first.operandParam)
  match comparator with
  | .contains | .notContains | .eq => compare .eq
  | .ne => compare .ne
  | .ge => compare .ge
  | .gt => compare .gt
  | .le => compare .le
  | .lt => compare .lt
  | .containsCaseInsensitive => do
    return .locate (.lowered column) (← first.loweredParam)
  | .containsCaseSensitive => .ok (.locate (.plain column) first.operandParam)
  | .eqCaseInsensitive => do
    return .compare (.lowered column) .eq (← first.loweredParam)
  | .regexp => do patternCondition scope (.lowered column) (← first.loweredParam)
  | .regexpCaseSensitive => patternCondition scope (.plain column) first.operandParam
  | .oneOf => .ok (.oneOf column (values.map (·.operandParam)))
  | .noneOf => .ok (.noneOf column (values.map (·.operandParam)))
  | .present | .absent => .ok (.all [])

/-- What the rows of a criterion have to hold, unless it asks only whether there are any. -/
def valueCondition? (scope : LeafScope) (criterion : PropertyCriterion) :
    Except Error (Option Condition) :=
  if !criterion.comparator.takesValue then .ok none
  else
    match criterion.values with
    | [] => .error (.query (.operandRequired criterion.comparator criterion.property))
    | first :: rest => do
      let (kind, multi) := columnOf scope criterion first
      let membership := multi &&
        (criterion.comparator == .contains || criterion.comparator == .notContains)
      if !membership && !kind.supports criterion.comparator then
        .error (.query (.unsupportedComparator criterion.comparator kind criterion.property))
      else
        return some (← comparison scope criterion.comparator (.value kind multi) first
          (first :: rest))

end PropertyCriterion

/-- The comparison of the class that every row repeats. -/
def TypeCriterion.condition (criterion : TypeCriterion) : Except Error Condition :=
  match criterion.types.map versionless with
  | [] => .error (.query .noTypes)
  | first :: rest =>
    match criterion.comparator with
    | .eq => .ok (.columnIs .vitaltype first)
    | .ne => .ok (.compare (.plain .vitaltype) .ne (.ofText first))
    | .oneOf => .ok (.columnIn .vitaltype (first :: rest))
    | .noneOf => .ok (.noneOf .vitaltype ((first :: rest).map .ofText))
    | comparator => .error (.query (.typeComparator comparator))

namespace Fold

/-- The types of a fold as a condition, unless it names none. -/
def typeConditions (fold : Fold) : List Condition :=
  match fold.types, fold.admits with
  | [], _ => []
  | [type], true => [.columnIs .vitaltype type]
  | [type], false => [.compare (.plain .vitaltype) .ne (.ofText type)]
  | types, true => [.columnIn .vitaltype types]
  | types, false => [.noneOf .vitaltype (types.map .ofText)]

/-- The comparison of the channel that every row repeats. -/
def channelCondition (filter : ChannelFilter) : Condition :=
  let uris := filter.uris.map versionless
  match filter.comparator with
  | .oneOf => .columnIn .channel uris
  | .noneOf => .noneOf .channel (uris.map .ofText)
  | .ne => .compare (.plain .channel) .ne (.ofText (uris.head?.getD ""))
  | _ => .columnIs .channel (uris.head?.getD "")

/-- A bound of the timestamp that every row repeats. -/
def boundCondition (inclusive exclusive : Comparison) (bound : TimestampBound) : Condition :=
  .compare (.plain .tstamp) (if bound.inclusive then inclusive else exclusive)
    (.i64 (some bound.value.toInt))

/-- A fold as a condition on a single row. -/
def condition (fold : Fold) : Condition :=
  if fold.unsatisfiable then .all [.never]
  else
    .all (fold.typeConditions ++ (fold.channel.map channelCondition).toList ++
      (fold.min.map (boundCondition .ge .gt)).toList ++
      (fold.max.map (boundCondition .le .lt)).toList)

end Fold

namespace Criterion

/-- The rows on which a criterion can be decided. -/
def subject : Criterion → Condition
  | property criterion => criterion.nameCondition
  | type _ => .columnIs .name Vocabulary.vitaltype

/-- What those rows have to hold. -/
def demand? (scope : LeafScope) : Criterion → Except Error (Option Condition)
  | property criterion => criterion.valueCondition? scope
  | type criterion => do return some (← criterion.condition)

/-- The rows that satisfy the positive form of a criterion, and the fold if there is one. -/
def leafCondition (scope : LeafScope) (fold : Option Fold) (criterion : Criterion) :
    Except Error Condition := do
  let demand ← criterion.demand? scope
  return .all ((fold.map (·.condition)).toList ++ criterion.subject :: demand.toList)

/-- Rows without which a criterion cannot be satisfied. Values are not looked at. -/
def probeCondition : Criterion → Except Error Condition
  | property criterion => .ok (.all [criterion.nameCondition])
  | type criterion => do
    let condition ← criterion.condition
    return .all [.columnIs .name Vocabulary.vitaltype, condition]

end Criterion

end GraphSegments
