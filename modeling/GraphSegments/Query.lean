import GraphSegments.Criteria
import GraphSegments.Object

/-!
Queries over segments and what they answer.
-/

namespace GraphSegments

/-- A logical shard. Its URI decides the table that holds it. -/
structure Segment where
  id : String
  uri : String
  deriving DecidableEq, Repr, Inhabited

/-- A sort key: a property, or one of the pseudo properties. -/
structure SortKey where
  property : String
  reverse : Bool
  deriving DecidableEq, Repr, Inhabited

inductive SortDirection where
  | ascending | descending
  deriving DecidableEq, Repr, Inhabited

/-- Asks for the different values of a property. -/
structure DistinctSpec where
  property : String
  expand : Bool
  sort : Option SortDirection
  /-- Only the first value in the order asked for. -/
  first : Bool
  /-- Only the last value in the order asked for. -/
  last : Bool
  deriving DecidableEq, Repr, Inhabited

inductive AggregationKind where
  | average | count | sum | min | max
  deriving DecidableEq, Repr, Inhabited

namespace AggregationKind

def all : List AggregationKind := [average, count, sum, min, max]

def name : AggregationKind → String
  | average => "average"
  | count => "count"
  | sum => "sum"
  | min => "min"
  | max => "max"

/-- The name at the start of a sentence. -/
def title : AggregationKind → String
  | average => "Average"
  | count => "Count"
  | sum => "Sum"
  | min => "Min"
  | max => "Max"

end AggregationKind

/-- Asks for one number over the values of a property, or for the count of matches. -/
structure Aggregation where
  kind : AggregationKind
  property : Option String
  distinct : Bool
  deriving DecidableEq, Repr, Inhabited

/-- How much is recorded about the statements of a query. -/
inductive StatsLevel where
  | none | normal | detailed
  deriving DecidableEq, Repr, Inhabited

/-- A query over segments. -/
structure Query where
  segments : List Segment
  criteria : Container
  sort : List SortKey
  offset : Nat
  /-- Zero stands for the default limit. -/
  limit : Nat
  projectionOnly : Bool
  distinct : Option DistinctSpec
  aggregation : Option Aggregation
  stats : StatsLevel
  deriving Inhabited

namespace Query

/-- The page size of a query that names none. -/
def defaultLimit : Nat := 10000

def effectiveLimit (query : Query) : Nat :=
  if query.limit > 0 then query.limit else defaultLimit

end Query

/-- One object of a result page. -/
structure ResultElement where
  object : GraphObject
  score : Double
  deriving DecidableEq

structure AggregationResult where
  kind : AggregationKind
  value : Double
  deriving DecidableEq, Repr

/-- A recorded statement, or a summary of several. -/
structure QueryTime where
  label : String
  sql : String
  millis : Nat
  deriving DecidableEq, Repr

/-- The times of a query. Statements are listed if any was recorded. -/
structure QueryStats where
  databaseMillis : Nat
  probingMillis : Nat
  batchGetMillis : Nat
  attributesMillis : Nat
  resolvingMillis : Nat
  totalMillis : Nat
  queries : Option (List QueryTime)
  deriving DecidableEq, Repr

/-- What a query answers. -/
structure ResultList where
  results : List ResultElement
  total : Nat
  offset : Nat
  limit : Nat
  distinctValues : Option (List Value)
  aggregation : Option AggregationResult
  stats : Option QueryStats
  deriving DecidableEq

/-- A page of a segment in the order of URIs. -/
structure ExportPage where
  objects : List GraphObject
  total : Nat
  offset : Nat
  limit : Nat
  deriving DecidableEq

end GraphSegments
