import GraphSegments.Dictionary
import GraphSegments.Error
import GraphSegments.Text.Blank
import GraphSegments.Text.Cut
import GraphSegments.Vocabulary

/-!
Ontologies, their classes and properties, and the registry that knows them.

A URI may carry the version of its ontology at the end of its namespace; `versionless` takes it
off. The registry answers what is registered, how classes and properties descend from each other,
and which older namespaces go together with an older version of a domain.
-/

namespace GraphSegments

namespace Version

/-- Three components out of their texts. -/
def ofPieces? : List (List Char) → Option Version
  | [major, minor, patch] => do
    let major ← Text.boundedNat? (Nat.pow 2 32) major
    let minor ← Text.boundedNat? (Nat.pow 2 32) minor
    let patch ← Text.boundedNat? (Nat.pow 2 32) patch
    return ⟨.ofNat major, .ofNat minor, .ofNat patch⟩
  | _ => none

/-- Reads a dotted version; white space around it does not count. -/
def read (raw : String) : Except Error Version :=
  match ofPieces? (Text.pieces '.' (Text.trim raw.toList)) with
  | some version => .ok version
  | none => .error (.version (.invalid raw))

end Version

/-- A URI without the version of its namespace, and that version. -/
structure VersionedUri where
  versionless : String
  version : Option Version
  deriving DecidableEq, Repr

namespace VersionedUri

/-- Splits a version off the end of a namespace, at the last place where one can begin. Something
has to be left of it. -/
def splitNamespace? (namespaceChars : List Char) : Option (List Char × Version) :=
  match Text.cutLast? ['_', 'v'] namespaceChars with
  | none => none
  | some (base, suffix) =>
    match Version.ofPieces? (Text.pieces '_' suffix) with
    | some version => if base.isEmpty then none else some (base, version)
    | none => none

/-- Takes a URI apart. The namespace ends at the first `#`, or with the URI. -/
def ofUri (uri : String) : VersionedUri :=
  match Text.cutFirst? '#' uri.toList with
  | some (space, fragment) =>
    match splitNamespace? space with
    | some (base, version) => ⟨String.ofList (base ++ '#' :: fragment), some version⟩
    | none => ⟨uri, none⟩
  | none =>
    match splitNamespace? uri.toList with
    | some (base, version) => ⟨String.ofList base, some version⟩
    | none => ⟨uri, none⟩

end VersionedUri

/-- A URI in the current vocabulary. -/
def versionless (uri : String) : String := (VersionedUri.ofUri uri).versionless

/-- An ontology in one of its versions. -/
structure OntologyDef where
  uri : String
  version : Version
  /-- The oldest version whose data this one still reads. -/
  compatible : Option Version
  imports : List String
  deriving DecidableEq, Repr

structure ClassDef where
  uri : String
  parent : Option String
  ontology : String
  /-- Containers take properties that no ontology defines. -/
  container : Bool
  deriving DecidableEq, Repr

structure PropertyDef where
  uri : String
  kind : ValueKind
  multiValued : Bool
  parent : Option String
  ontology : String
  deriving DecidableEq, Repr

/-- What is known of a domain. No URI is defined twice, and no older version. -/
structure Registry where
  ontologies : List OntologyDef
  older : List OntologyDef
  classes : List ClassDef
  properties : List PropertyDef
  deriving DecidableEq, Repr

namespace Registry

def empty : Registry := ⟨[], [], [], []⟩

/-- Adds an ontology, in place of the one of the same URI. -/
def addOntology (registry : Registry) (ontology : OntologyDef) : Registry :=
  { registry with
    ontologies := registry.ontologies.filter (·.uri != ontology.uri) ++ [ontology] }

/-- Adds an older version of an ontology, in place of the same version of the same URI. -/
def addOlder (registry : Registry) (ontology : OntologyDef) : Registry :=
  { registry with
    older := registry.older.filter
      (fun known => known.uri != ontology.uri || known.version != ontology.version) ++ [ontology] }

/-- Adds a class, in place of the one of the same URI. -/
def addClass (registry : Registry) (definition : ClassDef) : Registry :=
  { registry with
    classes := registry.classes.filter (·.uri != definition.uri) ++ [definition] }

/-- Adds a property, in place of the one of the same URI. -/
def addProperty (registry : Registry) (definition : PropertyDef) : Registry :=
  { registry with
    properties := registry.properties.filter (·.uri != definition.uri) ++ [definition] }

def ontology? (registry : Registry) (uri : String) : Option OntologyDef :=
  registry.ontologies.find? (·.uri == uri)

def older? (registry : Registry) (uri : String) (version : Version) : Option OntologyDef :=
  registry.older.find? fun known => known.uri == uri && known.version == version

def class? (registry : Registry) (uri : String) : Option ClassDef :=
  registry.classes.find? (·.uri == uri)

def property? (registry : Registry) (uri : String) : Option PropertyDef :=
  registry.properties.find? (·.uri == uri)

/-- The version of the core vocabulary. -/
def coreVersion : Version := ⟨0, 2, 304⟩

/-- The registry of the core vocabulary alone. -/
def core : Registry where
  ontologies :=
    [⟨Vocabulary.coreDomain, coreVersion, none, []⟩,
      ⟨Vocabulary.messageDomain, coreVersion, none, [Vocabulary.coreDomain]⟩]
  older := []
  classes :=
    [⟨Vocabulary.nodeClass, none, Vocabulary.coreDomain, false⟩,
      ⟨Vocabulary.containerClass, none, Vocabulary.coreDomain, true⟩,
      ⟨Vocabulary.messageClass, none, Vocabulary.messageDomain, false⟩]
  properties :=
    [⟨Vocabulary.vitaltype, .uri, false, none, Vocabulary.coreDomain⟩,
      ⟨Vocabulary.types, .uri, true, none, Vocabulary.coreDomain⟩,
      ⟨Vocabulary.uriProperty, .uri, false, none, Vocabulary.coreDomain⟩,
      ⟨Vocabulary.hasOntologyIri, .uri, false, none, Vocabulary.coreDomain⟩,
      ⟨Vocabulary.hasVersionIri, .string, false, none, Vocabulary.coreDomain⟩,
      ⟨Vocabulary.hasTimestamp, .long, false, none, Vocabulary.coreDomain⟩,
      ⟨Vocabulary.hasChannel, .uri, false, none, Vocabulary.messageDomain⟩]

/-- A URI and its ancestors as far as `steps` go. -/
def lineageWithin (registry : Registry) : Nat → String → List String
  | 0, uri => [uri]
  | steps + 1, uri =>
    match (registry.class? uri).bind (·.parent) with
    | some parent => uri :: registry.lineageWithin steps parent
    | none => [uri]

/-- A class and its ancestors. There are no more different ones than classes, so a cycle of
parents is run through but not followed for ever. -/
def lineage (registry : Registry) (uri : String) : List String :=
  registry.lineageWithin registry.classes.length uri

def isSubclassOf (registry : Registry) (uri ancestor : String) : Bool :=
  (registry.lineage uri).contains ancestor

/-- Whether a class or one of its ancestors takes properties that no ontology defines. -/
def isContainer (registry : Registry) (uri : String) : Bool :=
  (registry.lineage uri).any fun ancestor => (registry.class? ancestor).any (·.container)

/-- Adds to the URIs found their children that were not found before. -/
def withChildren (edges : List (String × Option String)) (found : List String) : List String :=
  found ++ (edges.filter fun (uri, parent) =>
    parent.any found.contains && !found.contains uri).map (·.1)

/-- The URIs found after a number of generations below `found`. -/
def generations (edges : List (String × Option String)) : Nat → List String → List String
  | 0, found => found
  | steps + 1, found => generations edges steps (withChildren edges found)

/-- The descendants of a URI in ascending order. Every generation that is not the last one adds a
URI, so there are no more generations than edges. -/
def descendants (edges : List (String × Option String)) (root : String) (withRoot : Bool) :
    List String :=
  ((generations edges edges.length [root]).filter fun uri => withRoot || uri != root).mergeSort

def subclasses (registry : Registry) (uri : String) (withSelf : Bool) : List String :=
  descendants (registry.classes.map fun known => (known.uri, known.parent)) uri withSelf

def subproperties (registry : Registry) (uri : String) (withSelf : Bool) : List String :=
  descendants (registry.properties.map fun known => (known.uri, known.parent)) uri withSelf

/-- Follows imports depth first, the last one first, and records the older namespace of each
domain that an import names with its version. -/
def followImports (registry : Registry) :
    Nat → List String → List String → Dictionary String → Dictionary String
  | 0, _, _, found => found
  | _, [], _, found => found
  | steps + 1, importUri :: pending, seen, found =>
    if seen.contains importUri then registry.followImports steps pending seen found
    else
      let seen := importUri :: seen
      match VersionedUri.ofUri importUri with
      | ⟨_, none⟩ => registry.followImports steps pending seen found
      | ⟨domain, some version⟩ =>
        let next := ((registry.older? domain version).map (·.imports)).getD []
        registry.followImports steps (next.reverse ++ pending) seen
          (found.insert domain importUri)

/-- How many imports can be followed: every different import is followed once, and none brings
more new ones than there are imports. -/
def importSteps (registry : Registry) : Nat :=
  let imports := registry.older.foldl (fun count ontology => count + ontology.imports.length) 0
  (imports + 1) * (imports + 1)

/-- The older namespaces of a domain in an older version and of everything it imports, by current
namespace. There are none unless that version of the domain is loaded. -/
def olderNamespaces? (registry : Registry) (domain : String) (version : Version) :
    Option (Dictionary String) :=
  (registry.older? domain version).map fun ontology =>
    registry.followImports registry.importSteps ontology.imports.reverse []
      ((∅ : Dictionary String).insert domain (domain ++ version.suffix))

end Registry

/-- Moves a URI from a current namespace to its older one; the first namespace that fits, in
ascending order, is taken. -/
def toOlder (namespaces : List (String × String)) (uri : String) : String :=
  match namespaces with
  | [] => uri
  | (current, older) :: rest =>
    match Text.stripText? (current ++ "#") uri with
    | some fragment => older ++ "#" ++ fragment
    | none => toOlder rest uri

end GraphSegments
