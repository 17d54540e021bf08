import GraphSegments.Json.Values
import GraphSegments.Ontology

/-!
Ontologies, classes and properties in JSON.
-/

namespace GraphSegments

namespace Version

def toJson (version : Version) : Json :=
  .object [("major", .int version.major.toNat), ("minor", .int version.minor.toNat),
    ("patch", .int version.patch.toNat)]

/-- One component of a version. -/
def component? (json : Json) : Option UInt32 := (json.asNat? 32).map UInt32.ofNat

def ofJson? (json : Json) : Option Version := do
  match ← json.fields? ["major", "minor", "patch"] 0 with
  | [major, minor, patch] =>
    return ⟨← Json.required component? major, ← Json.required component? minor,
      ← Json.required component? patch⟩
  | _ => none

end Version

namespace OntologyDef

def toJson (ontology : OntologyDef) : Json :=
  .object [("uri", .text ontology.uri), ("version", ontology.version.toJson),
    ("backward_compatible", .ofOption Version.toJson ontology.compatible),
    ("imports", .ofTexts ontology.imports)]

def ofJson? (json : Json) : Option OntologyDef := do
  match ← json.fields? ["uri", "version", "backward_compatible", "imports"] 0 with
  | [uri, version, compatible, imports] =>
    return ⟨← Json.required Json.asText? uri, ← Json.required Version.ofJson? version,
      ← Json.optional Version.ofJson? compatible,
      ← Json.required (Json.asList? Json.asText?) imports⟩
  | _ => none

end OntologyDef

namespace ClassDef

def toJson (definition : ClassDef) : Json :=
  .object [("uri", .text definition.uri), ("parent", .ofOption Json.text definition.parent),
    ("ontology", .text definition.ontology), ("container", .bool definition.container)]

def ofJson? (json : Json) : Option ClassDef := do
  match ← json.fields? ["uri", "parent", "ontology", "container"] 0 with
  | [uri, parent, ontology, container] =>
    return ⟨← Json.required Json.asText? uri, ← Json.optional Json.asText? parent,
      ← Json.required Json.asText? ontology, ← Json.required Json.asBool? container⟩
  | _ => none

end ClassDef

namespace PropertyDef

def toJson (definition : PropertyDef) : Json :=
  .object [("uri", .text definition.uri), ("kind", definition.kind.toJson),
    ("multi_valued", .bool definition.multiValued),
    ("parent", .ofOption Json.text definition.parent), ("ontology", .text definition.ontology)]

def ofJson? (json : Json) : Option PropertyDef := do
  match ← json.fields? ["uri", "kind", "multi_valued", "parent", "ontology"] 0 with
  | [uri, kind, multi, parent, ontology] =>
    return ⟨← Json.required Json.asText? uri, ← Json.required ValueKind.ofJson? kind,
      ← Json.required Json.asBool? multi, ← Json.optional Json.asText? parent,
      ← Json.required Json.asText? ontology⟩
  | _ => none

end PropertyDef

end GraphSegments
