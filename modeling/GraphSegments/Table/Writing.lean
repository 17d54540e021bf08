import GraphSegments.Object
import GraphSegments.Ontology
import GraphSegments.Table.Overflow
import GraphSegments.Table.Row

/-!
Writing an object as rows, always in the current vocabulary.
-/

namespace GraphSegments

namespace GraphObject

/-- URIs are stored in the current vocabulary. -/
def storedValue : Value → Value
  | .uri uri => .uri (versionless uri)
  | value => value

/-- The channel of a message, in the current vocabulary. Other objects have none. -/
def channel? (registry : Registry) (object : GraphObject) : Option String :=
  if registry.isSubclassOf (versionless object.vitaltype) Vocabulary.messageClass then
    ((((object.get? Vocabulary.hasChannel).bind (·.first?)).bind (·.text?)).map versionless)
  else none

/-- The properties to be written: the structural ones come from the object itself and from its
ontology, whatever the object holds under their names. -/
def entries (object : GraphObject) (ontology : OntologyDef) : List (String × PropertyValue) :=
  [(Vocabulary.vitaltype, .single (.uri object.vitaltype)),
    (Vocabulary.types, .multi (object.types.map .uri)),
    (Vocabulary.uriProperty, .single (.uri object.uri))] ++
  (object.properties.entries.filter fun (name, _) =>
    !Vocabulary.isStructural (versionless name)) ++
  [(Vocabulary.hasOntologyIri, .single (.uri ontology.uri)),
    (Vocabulary.hasVersionIri, .single (.string ontology.version.text))]

/-- The rows of one property, one for each value. -/
def rowsOfEntry (registry : Registry) (object : GraphObject) (name : String)
    (held : PropertyValue) : List Row :=
  let name := versionless name
  held.values.map fun value =>
    let encoded := Encoded.ofValue (storedValue value) held.isMulti
    { uri := object.uri
      name := name
      vitaltype := versionless object.vitaltype
      external := (registry.property? name).isNone
      tstamp := object.timestamp?
      channel := object.channel? registry
      value := encoded.stored
      multi := held.isMulti
      fullText := encoded.fullText }

/-- The rows of an object. Its class and the ontology of the class have to be registered. -/
def toRows (registry : Registry) (object : GraphObject) : Except Error (List Row) := do
  object.validate
  let className := versionless object.vitaltype
  match registry.class? className with
  | none => .error (.query (.unknownClass className))
  | some definition =>
    match registry.ontology? definition.ontology with
    | none => .error (.configuration (.noOntology className definition.ontology))
    | some ontology =>
      .ok <| (object.entries ontology).flatMap fun (name, held) =>
        rowsOfEntry registry object name held

/-- The rows of several objects, in their order. -/
def allToRows (registry : Registry) : List GraphObject → Except Error (List Row)
  | [] => .ok []
  | object :: rest => do
    let rows ← object.toRows registry
    let others ← allToRows registry rest
    return rows ++ others

end GraphObject

end GraphSegments
