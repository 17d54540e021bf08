import GraphSegments.Database
import GraphSegments.Search.Answer
import GraphSegments.Table.Name

/-!
The segments of a store. A segment exists when its table does; the catalog knows the segments by
id and URI. A step that fails leaves behind what the steps before it did.
-/

namespace GraphSegments

/-- What a store goes by while its database changes. Stores keep their tables in SQLite. -/
structure StoreScope where
  registry : Registry
  settings : SearchSettings

namespace StoreScope

def table (scope : StoreScope) (segment : Segment) : String :=
  TableName.ofUri scope.settings.tablesStart segment.uri

/-- The names of all segment tables, in ascending order. -/
def segmentTables (scope : StoreScope) (database : Database) : List String :=
  TableName.segments scope.settings.tablesStart database.tableNames

/-- Whether a segment exists. -/
def hasSegment (scope : StoreScope) (database : Database) (segment : Segment) : Bool :=
  (scope.segmentTables database).contains (scope.table segment)

/-- The table of a segment that has to exist. -/
def requireTable (scope : StoreScope) (database : Database) (segment : Segment) :
    Except Error String :=
  if scope.hasSegment database segment then .ok (scope.table segment)
  else .error (.notFound (.segment segment.uri segment.id))

/-- The segments of a pool that exist, each with its table. -/
def poolTables (scope : StoreScope) (database : Database) (pool : List Segment) :
    List (Segment × String) :=
  (pool.filter (scope.hasSegment database)).map fun segment => (segment, scope.table segment)

theorem poolTables_singleton {scope : StoreScope} {database : Database} {segment : Segment}
    (there : scope.hasSegment database segment = true) :
    scope.poolTables database [segment] = [(segment, scope.table segment)] := by
  simp [poolTables, there]

/-- Enters a segment into the catalog, in place of a stale entry of the same URI. -/
def enter (segment : Segment) (table : String) (database : Database) :
    Except Error Unit × Database :=
  match database.catalogFind segment.uri with
  | .error error => (.error error, database)
  | .ok stale =>
    let removed :=
      if stale.isSome then database.exec (.catalogRemove segment.uri) else .ok database
    match removed with
    | .error error => (.error error, database)
    | .ok cleared =>
      match cleared.exec (.catalogInsert segment.id segment.uri table 0) with
      | .error error => (.error error, cleared)
      | .ok entered => (.ok (), entered)

/-- Creates the table of a segment and enters the segment into the catalog. -/
def addSegment (scope : StoreScope) (database : Database) (segment : Segment) :
    Except Error Unit × Database :=
  let table := scope.table segment
  if scope.hasSegment database segment then
    (.error (.conflict (.segmentExists segment.uri segment.id)), database)
  else
    match database.execInTurn (Statement.createSegment table) with
    | (.error error, created) => (.error error, created)
    | (.ok _, created) => enter segment table created

/-- Drops the table of a segment and its entry in the catalog, where the data are to go too. -/
def deleteSegment (scope : StoreScope) (database : Database) (segment : Segment)
    (withData : Bool) : Except Error Unit × Database :=
  match scope.requireTable database segment with
  | .error error => (.error error, database)
  | .ok table =>
    if !withData then (.ok (), database)
    else
      match database.exec (.dropTable table) with
      | .error error => (.error error, database)
      | .ok dropped =>
        match dropped.exec (.catalogRemove segment.uri) with
        | .error error => (.error error, dropped)
        | .ok removed => (.ok (), removed)

/-- The segments of the catalog that exist, by ascending id. -/
def listSegments (scope : StoreScope) (database : Database) : Except Error (List Segment) := do
  let existing := scope.segmentTables database
  let entries ← database.catalogEntries
  return (entries.filter fun entry => existing.contains entry.table).map (·.segment)

/-- How many objects a segment holds. -/
def segmentSize (scope : StoreScope) (database : Database) (segment : Segment) :
    Except Error Nat := do
  let table ← scope.requireTable database segment
  database.countObjects table

end StoreScope

end GraphSegments
