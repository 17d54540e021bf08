import GraphSegments.Json.Shape
import GraphSegments.Object

/-!
Values and objects in JSON. A value is written next to the name of its kind.
-/

namespace GraphSegments

namespace ValueKind

/-- The name of a kind in JSON. -/
def tag : ValueKind → String
  | geolocation => "geo_location"
  | kind => kind.name

def toJson (kind : ValueKind) : Json := .text kind.tag

def ofJson? (json : Json) : Option ValueKind := json.oneOf? all tag

end ValueKind

namespace Truth

/-- The name of a truth in JSON. -/
def tag : Truth → String
  | no => "No"
  | yes => "Yes"
  | unknown => "Unknown"
  | mu => "Mu"

def toJson (truth : Truth) : Json := .text truth.tag

def ofJson? (json : Json) : Option Truth := json.oneOf? all tag

end Truth

namespace GeoLocation

def toJson (point : GeoLocation) : Json :=
  .object [("latitude", .ofDouble point.latitude), ("longitude", .ofDouble point.longitude)]

def ofJson? (json : Json) : Option GeoLocation := do
  match ← json.fields? ["latitude", "longitude"] 0 with
  | [latitude, longitude] =>
    return ⟨← Json.required Json.asDouble? latitude, ← Json.required Json.asDouble? longitude⟩
  | _ => none

end GeoLocation

namespace Value

/-- What a value holds, without its kind. -/
def content : Value → Json
  | boolean value => .bool value
  | date n | long n => .int n.toInt
  | double x => .ofDouble x
  | float x => .ofDouble x.toDouble
  | geolocation point => point.toJson
  | integer n => .int n.toInt
  | other text | string text | uri text => .text text
  | truth value => value.toJson

def toJson (value : Value) : Json :=
  .object [("kind", value.kind.toJson), ("value", value.content)]

/-- An integer of 64 bits. -/
def int64? (json : Json) : Option Int64 :=
  (json.asInt? (-Nat.pow 2 63) (Nat.pow 2 63 - 1)).map Int64.ofInt

/-- Reads what a value of a kind holds. -/
def ofContent? (kind : ValueKind) (json : Json) : Option Value :=
  match kind with
  | .boolean => json.asBool?.map boolean
  | .date => (int64? json).map date
  | .double => json.asDouble?.map double
  | .float => json.asSingle?.map float
  | .geolocation => (GeoLocation.ofJson? json).map geolocation
  | .integer => (json.asInt? (-Nat.pow 2 31) (Nat.pow 2 31 - 1)).map fun n => integer (.ofInt n)
  | .long => (int64? json).map long
  | .other => json.asText?.map other
  | .string => json.asText?.map string
  | .truth => (Truth.ofJson? json).map truth
  | .uri => json.asText?.map uri

/-- Reads a value, by name or as a pair. -/
def ofJson? (json : Json) : Option Value := do
  match ← json.fields? ["kind", "value"] 0 with
  | [some kind, some content] => ofContent? (← ValueKind.ofJson? kind) content
  | _ => none

end Value

namespace PropertyValue

def toJson : PropertyValue → Json
  | single value => .object [("Single", value.toJson)]
  | multi values => .object [("Multi", .list (values.map Value.toJson))]

def ofJson? (json : Json) : Option PropertyValue := do
  match ← json.tagged? with
  | ("Single", value) => (Value.ofJson? value).map single
  | ("Multi", values) => (values.asList? Value.ofJson?).map multi
  | _ => none

end PropertyValue

namespace GraphObject

def toJson (object : GraphObject) : Json :=
  .object
    [("uri", .text object.uri), ("vitaltype", .text object.vitaltype),
      ("types", .ofTexts object.types),
      ("properties", .object (object.properties.entries.map fun (name, held) =>
        (name, held.toJson)))]

/-- One property of an object. -/
def entry? (entry : String × Json) : Option (String × PropertyValue) := do
  return (entry.1, ← PropertyValue.ofJson? entry.2)

/-- The properties of an object. -/
def properties? : Json → Option (Dictionary PropertyValue)
  | .object entries => (entries.mapM entry?).map Dictionary.ofList
  | _ => none

def ofJson? (json : Json) : Option GraphObject := do
  match ← json.fields? ["uri", "vitaltype", "types", "properties"] 0 with
  | [uri, vitaltype, types, properties] =>
    return ⟨← Json.required Json.asText? uri, ← Json.required Json.asText? vitaltype,
      ← Json.required (Json.asList? Json.asText?) types,
      ← Json.required properties? properties⟩
  | _ => none

end GraphObject

end GraphSegments
