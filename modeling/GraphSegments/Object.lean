import GraphSegments.Dictionary
import GraphSegments.Error
import GraphSegments.Text.Blank
import GraphSegments.Vocabulary

/-!
Graph objects: a URI, a class and properties.
-/

namespace GraphSegments

/-- An object of the graph. The list of types starts with the class. -/
structure GraphObject where
  uri : String
  vitaltype : String
  types : List String
  properties : Dictionary PropertyValue
  deriving DecidableEq, Inhabited

namespace GraphObject

/-- An object without properties, its class as its only type. -/
def ofClass (uri vitaltype : String) : GraphObject := ⟨uri, vitaltype, [vitaltype], ∅⟩

/-- Adds a type unless the object has it. -/
def withType (object : GraphObject) (type : String) : GraphObject :=
  if object.types.contains type then object
  else { object with types := object.types ++ [type] }

/-- Sets a property. -/
def set (object : GraphObject) (property : String) (held : PropertyValue) : GraphObject :=
  { object with properties := object.properties.insert property held }

def get? (object : GraphObject) (property : String) : Option PropertyValue :=
  object.properties.find? property

/-- The timestamp of an object, if its property holds a date or a long first. -/
def timestamp? (object : GraphObject) : Option Int64 :=
  ((object.get? Vocabulary.hasTimestamp).bind (·.first?)).bind (·.instant?)

/-- Whether an object may be written. -/
def validate (object : GraphObject) : Except Error Unit :=
  if Text.allBlank object.uri then .error (.query .emptyUri)
  else if Text.allBlank object.vitaltype then .error (.query (.missingType object.uri))
  else if object.types.head? ≠ some object.vitaltype then
    .error (.query (.typesOutOfOrder object.uri))
  else .ok ()

/-- Equality in the sense of `Value.same`. -/
def same (a b : GraphObject) : Bool :=
  a.uri == b.uri && a.vitaltype == b.vitaltype && a.types == b.types &&
    a.properties.keys == b.properties.keys &&
    (a.properties.entries.zip b.properties.entries).all fun (x, y) => x.2.same y.2

end GraphObject

end GraphSegments
