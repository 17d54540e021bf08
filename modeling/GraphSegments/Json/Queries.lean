import GraphSegments.Json.Criteria
import GraphSegments.Query

/-!
Queries and what they answer, in JSON.
-/

namespace GraphSegments

namespace Segment

def toJson (segment : Segment) : Json :=
  .object [("id", .text segment.id), ("uri", .text segment.uri)]

def ofJson? (json : Json) : Option Segment := do
  match ← json.fields? ["id", "uri"] 0 with
  | [id, uri] => return ⟨← Json.required Json.asText? id, ← Json.required Json.asText? uri⟩
  | _ => none

end Segment

namespace SortKey

def toJson (key : SortKey) : Json :=
  .object [("property", .text key.property), ("reverse", .bool key.reverse)]

def ofJson? (json : Json) : Option SortKey := do
  match ← json.fields? ["property", "reverse"] 0 with
  | [property, reverse] =>
    return ⟨← Json.required Json.asText? property, ← Json.required Json.asBool? reverse⟩
  | _ => none

end SortKey

namespace SortDirection

def all : List SortDirection := [ascending, descending]

def tag : SortDirection → String
  | ascending => "asc"
  | descending => "desc"

def toJson (direction : SortDirection) : Json := .text direction.tag

def ofJson? (json : Json) : Option SortDirection := json.oneOf? all tag

end SortDirection

namespace DistinctSpec

def toJson (spec : DistinctSpec) : Json :=
  .object
    [("property", .text spec.property), ("expand_property", .bool spec.expand),
      ("sort", .ofOption SortDirection.toJson spec.sort), ("first", .bool spec.first),
      ("last", .bool spec.last)]

def ofJson? (json : Json) : Option DistinctSpec := do
  match ← json.fields? ["property", "expand_property", "sort", "first", "last"] 0 with
  | [property, expand, sort, first, last] =>
    return ⟨← Json.required Json.asText? property, ← Json.required Json.asBool? expand,
      ← Json.optional SortDirection.ofJson? sort, ← Json.required Json.asBool? first,
      ← Json.required Json.asBool? last⟩
  | _ => none

end DistinctSpec

namespace AggregationKind

def toJson (kind : AggregationKind) : Json := .text kind.name

def ofJson? (json : Json) : Option AggregationKind := json.oneOf? all name

end AggregationKind

namespace Aggregation

def toJson (aggregation : Aggregation) : Json :=
  .object
    [("kind", aggregation.kind.toJson), ("property", .ofOption Json.text aggregation.property),
      ("distinct", .bool aggregation.distinct)]

def ofJson? (json : Json) : Option Aggregation := do
  match ← json.fields? ["kind", "property", "distinct"] 0 with
  | [kind, property, distinct] =>
    return ⟨← Json.required AggregationKind.ofJson? kind,
      ← Json.optional Json.asText? property, ← Json.required Json.asBool? distinct⟩
  | _ => none

end Aggregation

namespace StatsLevel

def all : List StatsLevel := [none, normal, detailed]

def tag : StatsLevel → String
  | none => "none"
  | normal => "normal"
  | detailed => "detailed"

def toJson (level : StatsLevel) : Json := .text level.tag

def ofJson? (json : Json) : Option StatsLevel := json.oneOf? all tag

end StatsLevel

namespace Query

def toJson (query : Query) : Json :=
  .object
    [("segments", .list (query.segments.map Segment.toJson)),
      ("criteria", query.criteria.toJson), ("sort", .list (query.sort.map SortKey.toJson)),
      ("offset", .int query.offset), ("limit", .int query.limit),
      ("projection_only", .bool query.projectionOnly),
      ("distinct", .ofOption DistinctSpec.toJson query.distinct),
      ("aggregation", .ofOption Aggregation.toJson query.aggregation),
      ("collect_stats", query.stats.toJson)]

def ofJson? (json : Json) : Option Query := do
  match ← json.fields?
      ["segments", "criteria", "sort", "offset", "limit", "projection_only", "distinct",
        "aggregation", "collect_stats"] 0 with
  | [segments, criteria, sort, offset, limit, projection, distinct, aggregation, stats] =>
    return {
      segments := ← Json.required (Json.asList? Segment.ofJson?) segments
      criteria := ← Json.required Container.ofJson? criteria
      sort := ← Json.required (Json.asList? SortKey.ofJson?) sort
      offset := ← Json.required (Json.asNat? 64) offset
      limit := ← Json.required (Json.asNat? 64) limit
      projectionOnly := ← Json.required Json.asBool? projection
      distinct := ← Json.optional DistinctSpec.ofJson? distinct
      aggregation := ← Json.optional Aggregation.ofJson? aggregation
      stats := ← Json.required StatsLevel.ofJson? stats }
  | _ => none

end Query

namespace ResultElement

def toJson (element : ResultElement) : Json :=
  .object [("object", element.object.toJson), ("score", .ofDouble element.score)]

def ofJson? (json : Json) : Option ResultElement := do
  match ← json.fields? ["object", "score"] 0 with
  | [object, score] =>
    return ⟨← Json.required GraphObject.ofJson? object, ← Json.required Json.asDouble? score⟩
  | _ => none

end ResultElement

namespace AggregationResult

def toJson (result : AggregationResult) : Json :=
  .object [("kind", result.kind.toJson), ("value", .ofDouble result.value)]

def ofJson? (json : Json) : Option AggregationResult := do
  match ← json.fields? ["kind", "value"] 0 with
  | [kind, value] =>
    return ⟨← Json.required AggregationKind.ofJson? kind, ← Json.required Json.asDouble? value⟩
  | _ => none

end AggregationResult

namespace QueryTime

def toJson (time : QueryTime) : Json :=
  .object [("label", .text time.label), ("sql", .text time.sql), ("time_ms", .int time.millis)]

def ofJson? (json : Json) : Option QueryTime := do
  match ← json.fields? ["label", "sql", "time_ms"] 0 with
  | [label, sql, millis] =>
    return ⟨← Json.required Json.asText? label, ← Json.required Json.asText? sql,
      ← Json.required (Json.asNat? 64) millis⟩
  | _ => none

end QueryTime

namespace QueryStats

def toJson (stats : QueryStats) : Json :=
  .object
    [("database_time_ms", .int stats.databaseMillis),
      ("probing_time_ms", .int stats.probingMillis),
      ("objects_batch_get_ms", .int stats.batchGetMillis),
      ("attributes_time_ms", .int stats.attributesMillis),
      ("resolving_time_ms", .int stats.resolvingMillis),
      ("total_time_ms", .int stats.totalMillis),
      ("queries", .ofOption (fun times => .list (times.map QueryTime.toJson)) stats.queries)]

/-- A count of milliseconds. -/
def millis? : Option Json → Option Nat := Json.required (Json.asNat? 64)

def ofJson? (json : Json) : Option QueryStats := do
  match ← json.fields?
      ["database_time_ms", "probing_time_ms", "objects_batch_get_ms", "attributes_time_ms",
        "resolving_time_ms", "total_time_ms", "queries"] 0 with
  | [database, probing, batchGet, attributes, resolving, total, queries] =>
    return ⟨← millis? database, ← millis? probing, ← millis? batchGet, ← millis? attributes,
      ← millis? resolving, ← millis? total,
      ← Json.optional (Json.asList? QueryTime.ofJson?) queries⟩
  | _ => none

end QueryStats

namespace ResultList

def toJson (result : ResultList) : Json :=
  .object
    [("results", .list (result.results.map ResultElement.toJson)), ("total", .int result.total),
      ("offset", .int result.offset), ("limit", .int result.limit),
      ("distinct_values",
        .ofOption (fun values => .list (values.map Value.toJson)) result.distinctValues),
      ("aggregation", .ofOption AggregationResult.toJson result.aggregation),
      ("stats", .ofOption QueryStats.toJson result.stats)]

def ofJson? (json : Json) : Option ResultList := do
  match ← json.fields?
      ["results", "total", "offset", "limit", "distinct_values", "aggregation", "stats"] 0 with
  | [results, total, offset, limit, distinct, aggregation, stats] =>
    return ⟨← Json.required (Json.asList? ResultElement.ofJson?) results,
      ← Json.required (Json.asNat? 64) total, ← Json.required (Json.asNat? 64) offset,
      ← Json.required (Json.asNat? 64) limit,
      ← Json.optional (Json.asList? Value.ofJson?) distinct,
      ← Json.optional AggregationResult.ofJson? aggregation,
      ← Json.optional QueryStats.ofJson? stats⟩
  | _ => none

end ResultList

namespace ExportPage

def toJson (page : ExportPage) : Json :=
  .object
    [("objects", .list (page.objects.map GraphObject.toJson)), ("total", .int page.total),
      ("offset", .int page.offset), ("limit", .int page.limit)]

def ofJson? (json : Json) : Option ExportPage := do
  match ← json.fields? ["objects", "total", "offset", "limit"] 0 with
  | [objects, total, offset, limit] =>
    return ⟨← Json.required (Json.asList? GraphObject.ofJson?) objects,
      ← Json.required (Json.asNat? 64) total, ← Json.required (Json.asNat? 64) offset,
      ← Json.required (Json.asNat? 64) limit⟩
  | _ => none

end ExportPage

end GraphSegments
