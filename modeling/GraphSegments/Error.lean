import GraphSegments.Comparator
import GraphSegments.Value
import GraphSegments.Version
import GraphSegments.Text.Quoted

/-!
Everything that can go wrong, as causes. `Error.message` alone knows the wording.
-/

namespace GraphSegments

/-- Faults of the configuration, and of a registry that does not fit its own classes. -/
inductive ConfigurationError where
  | noOntology (className ontology : String)
  | tablesPrefix (found : String)
  | emptyPool
  | smallPool (connections : Nat)
  | poolBounds (least most : Nat)
  | emptyUrl
  | notAFile
  | unreadable
  | noFolder
  deriving DecidableEq, Repr

/-- Faults of objects to be written and of queries. -/
inductive QueryError where
  | emptyUri
  | missingType (uri : String)
  | typesOutOfOrder (uri : String)
  | unknownClass (className : String)
  | multiValuedComparator (property : String)
  | singleValuedComparator (property : String)
  | noComplement (comparator : Comparator)
  | valueRequired (comparator : Comparator) (property : String)
  | listRequired
  | emptyList
  | singleValueRequired (comparator : Comparator)
  | noTypes
  | typeComparator (comparator : Comparator)
  | expandsTypeList
  | expandsSeveralTypes
  | unknownTypeToExpand (type : String)
  | unknownPropertyToExpand (property : String)
  | mixedTypeComparators
  | operandRequired (comparator : Comparator) (property : String)
  | unsupportedComparator (comparator : Comparator) (kind : ValueKind) (property : String)
  | textRequired
  | noPatterns
  | emptyCriteria
  | projectedAggregation
  | distinctAggregation
  | aggregationProperty (aggregation : String)
  | expandedDistinct
  | relevanceOrder
  | unknownSortProperty (property : String)
  | multiValuedSortProperty (property : String)
  | emptyPage
  deriving DecidableEq, Repr

/-- Faults of versions. -/
inductive VersionError where
  | invalid (text : String)
  | incompatible (uri ontology : String) (persisted loaded : Version)
  deriving DecidableEq, Repr

/-- Faults of stored data. -/
inductive IntegrityError where
  | noPoint (text : String)
  | noPointNumber
  | truthCode (code : Int)
  | emptyRow
  | missingFullText
  | foreignRow (found uri : String)
  | mixedCardinality (property uri : String)
  | repeatedSingle (property uri : String)
  | missingType (uri : String)
  | missingTypes (uri : String)
  | unknownClass (className uri : String)
  | unknownProperty (property uri : String)
  | outOfOrder (uri last : String)
  | unresolvedText (property uri : String)
  deriving DecidableEq, Repr

/-- Things asked for that are not there. -/
inductive NotFoundError where
  | segment (uri id : String)
  | transaction (id : String)
  deriving DecidableEq, Repr

/-- Things that are there and should not be. -/
inductive ConflictError where
  | segmentExists (uri id : String)
  | storedElsewhere (object segment : String)
  | transactionInUse (id : String)
  | handler (text : String)
  deriving DecidableEq, Repr

/-- The errors of the library. Faults of the database itself carry no cause. -/
inductive Error where
  | configuration (cause : ConfigurationError)
  | query (cause : QueryError)
  | version (cause : VersionError)
  | integrity (cause : IntegrityError)
  | capacity (limit : Nat)
  | notFound (cause : NotFoundError)
  | conflict (cause : ConflictError)
  | storage
  deriving DecidableEq, Repr

namespace ConfigurationError

def text : ConfigurationError → String
  | noOntology className ontology =>
    "no ontology registered for class " ++ className ++ ": " ++ ontology
  | tablesPrefix found =>
    "tables prefix must be a non-empty identifier: " ++ Text.quoted found
  | emptyPool => "pool max_connections must be positive"
  | smallPool connections =>
    "pool max_connections " ++ toString connections ++
      " leaves no room for transactions, use at least 2"
  | poolBounds least most =>
    "pool min_connections " ++ toString least ++ " exceeds max_connections " ++ toString most
  | emptyUrl => "database url must not be empty"
  | notAFile => "config is not sqlite backend"
  | unreadable => "config is not valid"
  | noFolder => "config has no folder"

end ConfigurationError

namespace QueryError

def text : QueryError → String
  | emptyUri => "object URI must not be empty"
  | missingType uri => "object " ++ uri ++ " has no vitaltype"
  | typesOutOfOrder uri => "object " ++ uri ++ " types must start with its vitaltype"
  | unknownClass className => "unknown class: " ++ className
  | multiValuedComparator property =>
    "multi-valued property " ++ property ++
      " may only be queried with CONTAINS/NOT_CONTAINS, or CONTAINS_CASE_INSENSITIVE/CONTAINS_CASE_SENSITIVE for strings"
  | singleValuedComparator property =>
    "CONTAINS/NOT_CONTAINS may only be used with multi-valued properties: " ++ property
  | noComplement comparator => "no corresponding negated comparator for " ++ comparator.name
  | valueRequired comparator property =>
    "value is required for " ++ comparator.name ++ " on " ++ property
  | listRequired => "ONE_OF/NONE_OF value must be a list"
  | emptyList => "ONE_OF/NONE_OF value list must not be empty"
  | singleValueRequired comparator => comparator.name ++ " expects a single value"
  | noTypes => "type criterion without types"
  | typeComparator comparator => "unsupported type criterion comparator: " ++ comparator.name
  | expandsTypeList => "cannot expand types with a ONE_OF/NONE_OF comparator"
  | expandsSeveralTypes => "type expansion requires exactly one type"
  | unknownTypeToExpand type => "class metadata not found for type: " ++ type
  | unknownPropertyToExpand property => "property metadata not found for expansion: " ++ property
  | mixedTypeComparators => "mixed type constraint comparator in a container detected"
  | operandRequired comparator property =>
    comparator.name ++ " criterion on " ++ property ++ " requires a value"
  | unsupportedComparator comparator kind property =>
    "unsupported comparator " ++ comparator.name ++ " for " ++ kind.name ++ " property " ++ property
  | textRequired => "case-insensitive comparators require a text value"
  | noPatterns => "regular expression matching is not supported by the sqlite dialect"
  | emptyCriteria => "empty query criteria container"
  | projectedAggregation => "projection-only queries cannot carry an aggregation"
  | distinctAggregation => "aggregation and distinct cannot be combined"
  | aggregationProperty aggregation => aggregation ++ " aggregation requires a property"
  | expandedDistinct => "distinct values of an expanded property are not supported"
  | relevanceOrder => "relevance sorting is not supported"
  | unknownSortProperty property => "cannot sort by unknown property " ++ property
  | multiValuedSortProperty property => "cannot sort by multi-valued property " ++ property
  | emptyPage => "scan page size must be positive"

end QueryError

namespace VersionError

def text : VersionError → String
  | invalid text => "invalid version: " ++ text
  | incompatible uri ontology persisted loaded =>
    "object " ++ uri ++ " persisted with " ++ ontology ++ " " ++ persisted.text ++
      ", loaded version is " ++ loaded.text

end VersionError

namespace IntegrityError

def text : IntegrityError → String
  | noPoint text => "invalid geolocation: " ++ text
  | noPointNumber => "invalid geolocation: invalid float literal"
  | truthCode code => "invalid truth code: " ++ toString code
  | emptyRow => "row has no populated value column"
  | missingFullText => "overflow marker found without full text value"
  | foreignRow found uri => "row for " ++ found ++ " mixed into rows for " ++ uri
  | mixedCardinality property uri =>
    "property " ++ property ++ " of " ++ uri ++ " mixes single and multi-valued rows"
  | repeatedSingle property uri =>
    "property " ++ property ++ " of " ++ uri ++ " has more than one single-valued row"
  | missingType uri => "object " ++ uri ++ " has no vitaltype"
  | missingTypes uri => "object " ++ uri ++ " has no types property"
  | unknownClass className uri => "unknown class " ++ className ++ " for " ++ uri
  | unknownProperty property uri => "unknown property " ++ property ++ " on " ++ uri
  | outOfOrder uri last => "rows for " ++ uri ++ " arrived out of order after " ++ last
  | unresolvedText property uri => "missing full text for " ++ property ++ " on " ++ uri

end IntegrityError

namespace NotFoundError

def text : NotFoundError → String
  | segment uri id => "segment not found, uri: " ++ uri ++ " id: " ++ id
  | transaction id => "transaction " ++ id ++ " not found"

end NotFoundError

namespace ConflictError

def text : ConflictError → String
  | segmentExists uri id => "segment table with uri " ++ uri ++ " already exists, id: " ++ id
  | storedElsewhere object segment =>
    "object " ++ object ++ " already stored in segment " ++ segment
  | transactionInUse id => "transaction " ++ id ++ " is still in use"
  | handler text => text

end ConflictError

namespace Error

/-- The name of the kind of an error. -/
def kindName : Error → String
  | configuration _ => "Configuration"
  | query _ => "QueryValidation"
  | version _ => "VersionConflict"
  | integrity _ => "DataIntegrity"
  | capacity _ => "Capacity"
  | notFound _ => "NotFound"
  | conflict _ => "Conflict"
  | storage => "Storage"

/-- The wording of an error. Faults of the database, of unreadable files and of folders have none
that this library decides. -/
def message? : Error → Option String
  | configuration .unreadable | configuration .noFolder => none
  | configuration cause => some ("configuration error: " ++ cause.text)
  | query cause => some ("query validation error: " ++ cause.text)
  | version cause => some ("version conflict: " ++ cause.text)
  | integrity cause => some ("data integrity error: " ++ cause.text)
  | capacity limit =>
    some ("capacity exceeded: the limit of active transactions has been exceeded (limit " ++
      toString limit ++ ")")
  | notFound cause => some ("not found: " ++ cause.text)
  | conflict cause => some ("conflict: " ++ cause.text)
  | storage => none

end Error

end GraphSegments
