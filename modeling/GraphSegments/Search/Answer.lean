import GraphSegments.Criteria.NormalForm
import GraphSegments.Search.Accumulator
import GraphSegments.Search.Loading
import GraphSegments.Search.Matching
import GraphSegments.Sql.Printer

/-!
Answering a query: each segment is searched in turn, and what is asked for is gathered from its
matches, be it a number, the different values of a property, or a page of objects.
-/

namespace GraphSegments

namespace Query

/-- Only a count can do without a property. -/
def validateAggregation (aggregation : Aggregation) : Except Error Unit :=
  if aggregation.property.isNone && aggregation.kind != .count then
    .error (.query (.aggregationProperty aggregation.kind.title))
  else .ok ()

/-- Whether a query makes sense at all. -/
def validate (query : Query) : Except Error Unit := do
  if query.criteria.elements.isEmpty then .error (.query .emptyCriteria)
  if query.projectionOnly && query.aggregation.isSome then
    .error (.query .projectedAggregation)
  if query.aggregation.isSome && query.distinct.isSome then
    .error (.query .distinctAggregation)
  query.aggregation.forM validateAggregation
  if query.distinct.any (·.expand) then .error (.query .expandedDistinct)

end Query

/-- What the results are sorted by. -/
inductive SortMode where
  | indexOrder
  | uri
  | timestamp
  | property (name : String)
  deriving DecidableEq, Repr, Inhabited

structure SortRule where
  mode : SortMode
  reverse : Bool
  deriving DecidableEq, Repr, Inhabited

namespace SortRule

/-- The rule of a sort key. Only a single key for the timestamp sorts by the column that every row
repeats; next to others it is a property like any other. -/
def ofKey (registry : Registry) (alone : Bool) (key : SortKey) : Except Error SortRule :=
  if key.property = Vocabulary.indexOrderPseudo then .ok ⟨.indexOrder, key.reverse⟩
  else if key.property = Vocabulary.uriPseudo then .ok ⟨.uri, key.reverse⟩
  else if key.property = Vocabulary.relevancePseudo then .error (.query .relevanceOrder)
  else
    let name := versionless key.property
    match registry.property? name with
    | none => .error (.query (.unknownSortProperty name))
    | some definition =>
      if definition.multiValued then .error (.query (.multiValuedSortProperty name))
      else if name = Vocabulary.hasTimestamp && alone then .ok ⟨.timestamp, key.reverse⟩
      else .ok ⟨.property name, key.reverse⟩

def ofKeys (registry : Registry) (keys : List SortKey) : Except Error (List SortRule) :=
  keys.mapM (ofKey registry (keys.length == 1))

end SortRule

/-- How a store searches. -/
structure SearchSettings where
  /-- What the names of segment tables start with. -/
  tablesStart : String
  probing : Bool
  folding : Bool
  mode : ExecutionMode
  read : ReadOptions
  deriving DecidableEq, Repr, Inhabited

/-- Where and how queries are answered. -/
structure SearchScope extends LeafScope where
  settings : SearchSettings

/-- What was gathered from the segments searched so far. -/
structure Tally where
  total : Nat
  accumulator : Accumulator
  distinct : List Value
  buffer : RankBuffer

namespace SearchScope

/-- The search of one segment. -/
def segment (scope : SearchScope) (segment : Segment) (place : Nat) : SegmentScope where
  toLeafScope := scope.toLeafScope
  table := TableName.ofUri scope.settings.tablesStart segment.uri
  place := place
  probing := scope.settings.probing
  folding := scope.settings.folding

/-- What one rule sorts the matches of a segment by. -/
def sortValues (table : String) (uris : List String) (rule : SortRule) :
    Dialogue (List (String × Value)) :=
  match rule.mode with
  | .property name => Loading.propertyValues table name uris
  | .timestamp => Loading.timestampValues table uris
  | .indexOrder | .uri => .done []

/-- What all rules sort the matches of a segment by. -/
def sortColumns (table : String) (uris : List String) :
    List SortRule → Dialogue (List (SortRule × List (String × Value)))
  | [] => .done []
  | rule :: rest => do
    let values ← sortValues table uris rule
    let others ← sortColumns table uris rest
    return (rule, values) :: others

/-- The key of a match under one rule. Of several values of a property the last one counts. -/
def key (place position : Nat) (uri : String) (rule : SortRule)
    (values : List (String × Value)) : HitKey :=
  match rule.mode with
  | .indexOrder => .position place position
  | .uri => .text uri
  | .timestamp | .property _ => .value ((values.reverse.find? (·.1 == uri)).map (·.2))

/-- The matches of a segment as hits. -/
def rank (table : String) (place : Nat) (rules : List SortRule) (uris : List String) :
    Dialogue (List Hit) := do
  let columns ← sortColumns table uris rules
  return uris.zipIdx.map fun (uri, position) =>
    ⟨uri, place, columns.map fun (rule, values) => key place position uri rule values, .zero⟩

/-- Gathers what a query asks for from the matches of a segment. -/
def gather (query : Query) (rules : List SortRule) (table : String) (place : Nat)
    (uris : List String) (tally : Tally) : Dialogue Tally :=
  match query.aggregation with
  | some aggregation =>
    match aggregation.property with
    | none => .done { tally with
        accumulator :=
          { tally.accumulator with count := tally.accumulator.count + uris.length } }
    | some property => do
      let found ← Loading.propertyValues table (versionless property) uris
      return { tally with
        accumulator := found.foldl (fun accumulator (_, value) =>
          accumulator.take aggregation value) tally.accumulator }
  | none =>
    match query.distinct with
    | some spec => do
      let found ← Loading.propertyValues table (versionless spec.property) uris
      return { tally with
        distinct := found.foldl (fun values (_, value) => value.insertOrdered values)
          tally.distinct }
    | none =>
      if query.projectionOnly then .done tally
      else do
        let hits ← rank table place rules uris
        return { tally with buffer := tally.buffer.pushAll hits }

/-- Searches segments one after the other. -/
def searchAll (scope : SearchScope) (query : Query) (criteria : Container)
    (rules : List SortRule) (tally : Tally) : List (Segment × Nat) → Dialogue Tally
  | [] => .done tally
  | (segment, place) :: rest => do
    let target := scope.segment segment place
    let matched ← target.search scope.settings.mode criteria
    let counted := { tally with total := tally.total + matched.length }
    let gathered ←
      if matched.isEmpty then pure counted
      else gather query rules target.table place matched counted
    scope.searchAll query criteria rules gathered rest

/-- The different values in the order asked for, or only one end of them. -/
def distinctValues (spec : DistinctSpec) (values : List Value) : List Value :=
  let ordered := if spec.sort = some .descending then values.reverse else values
  if spec.first then ordered.take 1
  else if spec.last then ordered.getLast?.toList
  else ordered

/-- What a query answers once all segments are searched. -/
def conclude (scope : SearchScope) (query : Query) (tally : Tally) : Dialogue ResultList :=
  let empty : ResultList := ⟨[], tally.total, query.offset, query.effectiveLimit, none, none, none⟩
  match query.aggregation, query.distinct with
  | some aggregation, _ =>
    .done { empty with aggregation := some (tally.accumulator.finish aggregation) }
  | none, some spec =>
    .done { empty with
      total := tally.distinct.length
      distinctValues := some (distinctValues spec tally.distinct) }
  | none, none =>
    if query.projectionOnly then .done empty
    else do
      let page := tally.buffer.hits.drop query.offset
      let objects ← Loading.pageObjects scope.registry scope.settings.read
        scope.settings.tablesStart page [] query.segments.zipIdx
      return { empty with results := Loading.deliver objects page }

/-- Answers a query. -/
def answer (scope : SearchScope) (query : Query) : Dialogue ResultList := do
  Dialogue.ofExcept query.validate
  let criteria ← Dialogue.ofExcept (query.criteria.normalize scope.registry)
  let rules ← Dialogue.ofExcept (SortRule.ofKeys scope.registry query.sort)
  let buffer := RankBuffer.empty (query.offset + query.effectiveLimit) (rules.map (·.reverse))
  let tally ← scope.searchAll query criteria rules ⟨0, .empty, [], buffer⟩ query.segments.zipIdx
  scope.conclude query tally

end SearchScope

/-- The text of a note. -/
def NoteText.text (dialect : Dialect) : NoteText → String
  | .statement select => Piece.literalSql dialect (dialect.selectPieces select)
  | .summary text => text

/-- What is told about the statements of a query. No times are measured. -/
def QueryStats.ofNotes (level : StatsLevel) (dialect : Dialect) (notes : List Note) :
    Option QueryStats :=
  let listed := notes.map fun entry : Note => (⟨entry.label, entry.text.text dialect, 0⟩ : QueryTime)
  match level with
  | .none => none
  | .normal => some ⟨0, 0, 0, 0, 0, 0, none⟩
  | .detailed => some ⟨0, 0, 0, 0, 0, 0, if listed.isEmpty then none else some listed⟩

namespace SearchScope

/-- Answers a query out of what a responder answers, and gives the statements that were asked. -/
def answerWith (scope : SearchScope) (responder : Dialogue.Responder) (query : Query) :
    Except Error ResultList × List Select :=
  let transcript := (scope.answer query).transcript responder 0 []
  (transcript.outcome.map fun result =>
      { result with stats := QueryStats.ofNotes query.stats scope.dialect transcript.notes },
    transcript.statements)

end SearchScope

end GraphSegments
