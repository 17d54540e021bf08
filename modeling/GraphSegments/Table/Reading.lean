import GraphSegments.Object
import GraphSegments.Ontology
import GraphSegments.Table.Overflow
import GraphSegments.Table.Row

/-!
Reading an object back from its rows: the rows are grouped by property, the version with which
they were written is reconciled with the one that is loaded, and every property is checked against
the registry.
-/

namespace GraphSegments

/-- What happens to objects of another version of their ontology. -/
inductive Enforcement where
  /-- They are refused unless the loaded version reads them. -/
  | strict
  /-- They are read as they are. -/
  | tolerant
  /-- They are read, and properties that are not registered are left out. -/
  | lenient
  deriving DecidableEq, Repr, Inhabited

structure ReadOptions where
  enforcement : Enforcement
  /-- Properties that no ontology defines are allowed on every class. -/
  external : Bool
  /-- Broken objects are dropped instead of being an error. -/
  ignoreBroken : Bool
  overflow : Overflow.Mode
  deriving DecidableEq, Repr, Inhabited

/-- A text of an object that is still to be fetched. -/
structure DeferredText where
  uri : String
  /-- The name under which rows have the property. -/
  storedName : String
  /-- The name under which the object has it. -/
  property : String
  kind : ValueKind
  deriving DecidableEq, Repr

/-- An object read from rows, and the texts that it still lacks. -/
structure DecodedObject where
  object : GraphObject
  deferred : List DeferredText
  deriving DecidableEq

/-- The rows of one property. -/
structure PropertyRows where
  external : Bool
  multi : Bool
  /-- The stored values in the order of the rows, each with its full text. -/
  values : List (Value × Option String)
  deriving DecidableEq, Repr

namespace PropertyRows

/-- Adds a row to the rows of its property. A property is either single, with one row, or
multi-valued in all its rows. -/
def add (uri : String) (grouped : Dictionary PropertyRows) (row : Row) :
    Except Error (Dictionary PropertyRows) :=
  if row.uri ≠ uri then .error (.integrity (.foreignRow row.uri uri))
  else
    match grouped.find? row.name with
    | none =>
      .ok (grouped.insert row.name ⟨row.external, row.multi, [(row.value, row.fullText)]⟩)
    | some known =>
      if known.multi ≠ row.multi then .error (.integrity (.mixedCardinality row.name uri))
      else if !row.multi then .error (.integrity (.repeatedSingle row.name uri))
      else
        .ok (grouped.insert row.name
          { known with values := known.values ++ [(row.value, row.fullText)] })

/-- The rows of an object by property. -/
def group (uri : String) (rows : List Row) : Except Error (Dictionary PropertyRows) :=
  rows.foldlM (add uri) ∅

/-- The text of the first value of a property. -/
def firstText? (grouped : Dictionary PropertyRows) (name : String) : Option String :=
  ((grouped.find? name).bind fun rows => rows.values.head?).bind fun (value, _) => value.text?

end PropertyRows

/-- Whether a loaded ontology reads data of an earlier version. -/
def OntologyDef.reads (loaded : OntologyDef) (persisted : Version) : Bool :=
  persisted.isBelow loaded.version &&
    loaded.compatible.any fun oldest => !persisted.isBelow oldest

/-- Compares the version of the rows with the loaded one. Where the older version itself is loaded,
the answer is the namespaces in which the object has to be read. -/
def reconcile (registry : Registry) (enforcement : Enforcement) (uri : String)
    (grouped : Dictionary PropertyRows) : Except Error (Option (Dictionary String)) :=
  match PropertyRows.firstText? grouped Vocabulary.hasOntologyIri,
      PropertyRows.firstText? grouped Vocabulary.hasVersionIri with
  | some ontologyUri, some raw => do
    let persisted ← Version.read raw
    match registry.olderNamespaces? ontologyUri persisted with
    | some namespaces => return some namespaces
    | none =>
      match registry.ontology? ontologyUri with
      | none => return none
      | some loaded =>
        if loaded.version = persisted then return none
        else
          match enforcement with
          | .strict =>
            if loaded.reads persisted then return none
            else .error (.version (.incompatible uri ontologyUri persisted loaded.version))
          | .tolerant | .lenient => return none
  | _, _ => .ok none

/-- What becomes of the rows of one property. -/
inductive PropertyReading where
  | skipped
  | broken (cause : IntegrityError)
  | held (name : String) (value : PropertyValue) (deferred : List DeferredText)

/-- Where and how one object is read. -/
structure ReadingScope where
  registry : Registry
  options : ReadOptions
  uri : String
  /-- The older namespaces in which the object is read, if any. -/
  namespaces : Option (Dictionary String)
  /-- Whether properties that no ontology defines are allowed. -/
  allowExternal : Bool

namespace ReadingScope

/-- A stored URI in the vocabulary in which the object is read. -/
def readUri (namespaces : Option (Dictionary String)) (uri : String) : String :=
  match namespaces with
  | some namespaces => toOlder namespaces.entries uri
  | none => uri

/-- Reads the stored values of a property in order; texts still to be fetched keep their marker. -/
def readValues (scope : ReadingScope) (storedName property : String) :
    List (Value × Option String) → Except Error (List Value × List DeferredText)
  | [] => .ok ([], [])
  | (stored, fullText) :: rest => do
    let decoded ← Decoded.ofStored stored fullText scope.options.overflow
    let (values, deferred) ← scope.readValues storedName property rest
    return match decoded with
      | .ready (.uri uri) => (.uri (readUri scope.namespaces uri) :: values, deferred)
      | .ready value => (value :: values, deferred)
      | .deferred kind => (stored :: values, ⟨scope.uri, storedName, property, kind⟩ :: deferred)

/-- Whether a property is read as multi-valued; unregistered ones have to be allowed. -/
def cardinality? (scope : ReadingScope) (property : String) (rows : PropertyRows) :
    Option Bool :=
  match scope.registry.property? property with
  | some definition => some (definition.multiValued || rows.multi)
  | none => if rows.external && scope.allowExternal then some rows.multi else none

/-- Reads one property. -/
def readProperty (scope : ReadingScope) (storedName : String) (rows : PropertyRows) :
    Except Error PropertyReading :=
  if Vocabulary.isStructural storedName then .ok .skipped
  else
    let property := readUri scope.namespaces storedName
    match scope.cardinality? property rows with
    | none =>
      .ok <|
        if scope.options.enforcement = .lenient then .skipped
        else .broken (.unknownProperty property scope.uri)
    | some multi => do
      let (values, deferred) ← scope.readValues storedName property rows.values
      return match multi, values with
        | true, values => .held property (.multi values) deferred
        | false, value :: _ => .held property (.single value) deferred
        | false, [] => .skipped

/-- What is known of an object, or why it is broken. -/
abbrev Outcome := Except IntegrityError DecodedObject

/-- Reads the properties in ascending order of their stored names, up to the first one that breaks
the object. -/
def readProperties (scope : ReadingScope) (decoded : DecodedObject) :
    List (String × PropertyRows) → Except Error Outcome
  | [] => .ok (.ok decoded)
  | (storedName, rows) :: rest => do
    match ← scope.readProperty storedName rows with
    | .skipped => scope.readProperties decoded rest
    | .broken cause => return .error cause
    | .held property value deferred =>
      scope.readProperties
        ⟨decoded.object.set property value, decoded.deferred ++ deferred⟩ rest

/-- The types of an object: its class, then the stored ones that are new. -/
def typesOf (vitaltype : String) (stored : List String) : List String :=
  stored.foldl (fun types type => if types.contains type then types else types ++ [type])
    [vitaltype]

/-- Reads an object from its grouped rows. -/
def readGrouped (registry : Registry) (options : ReadOptions) (uri : String)
    (grouped : Dictionary PropertyRows) : Except Error Outcome :=
  match PropertyRows.firstText? grouped Vocabulary.vitaltype with
  | none => .ok (.error (.missingType uri))
  | some storedType =>
    match grouped.find? Vocabulary.types with
    | none => .ok (.error (.missingTypes uri))
    | some typeRows => do
      let namespaces ← reconcile registry options.enforcement uri grouped
      let vitaltype := readUri namespaces storedType
      let stored := typeRows.values.filterMap fun (value, _) => value.text?
      if (registry.class? vitaltype).isNone then
        return .error (.unknownClass vitaltype uri)
      else
        let scope : ReadingScope :=
          { registry := registry
            options := options
            uri := uri
            namespaces := namespaces
            allowExternal := options.external || registry.isContainer vitaltype }
        scope.readProperties
          ⟨⟨uri, vitaltype, typesOf vitaltype (stored.map (readUri namespaces)), ∅⟩, []⟩
          grouped.entries

end ReadingScope

namespace DecodedObject

/-- Reads one object from all of its rows. Without rows there is none, and a broken one is dropped
where that is wanted. -/
def ofRows (registry : Registry) (options : ReadOptions) (rows : List Row) :
    Except Error (Option DecodedObject) :=
  match rows with
  | [] => .ok none
  | first :: _ => do
    let grouped ← PropertyRows.group first.uri rows
    match ← ReadingScope.readGrouped registry options first.uri grouped with
    | .ok decoded => return some decoded
    | .error cause =>
      if options.ignoreBroken then return none else .error (.integrity cause)

/-- Reads the objects of the given URIs, each from its rows. -/
def ofUris (registry : Registry) (options : ReadOptions) (rows : List Row) :
    List String → Except Error (List DecodedObject)
  | [] => .ok []
  | uri :: rest => do
    let decoded ← ofRows registry options (rows.filter (·.uri == uri))
    let others ← ofUris registry options rows rest
    return decoded.toList ++ others

/-- Reads all objects of a list of rows, in the order in which their URIs first occur. -/
def ofBatch (registry : Registry) (options : ReadOptions) (rows : List Row) :
    Except Error (List DecodedObject) :=
  ofUris registry options rows (rows.map (·.uri)).eraseDups

end DecodedObject

end GraphSegments
