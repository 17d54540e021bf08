import GraphSegments.Store.Segments
import GraphSegments.Table.Writing

/-!
The objects of a store: saving replaces what a segment holds of an object, reading goes through
the segments of a pool in order, and deleting takes objects out of all of them.
-/

namespace GraphSegments

namespace StoreScope

/-- Those of some objects that a table holds, in ascending order. -/
def stored (database : Database) (table : String) (uris : List String) :
    Except Error UriSet :=
  (Fetching.objectsAmong table uris).run database

/-- Refuses objects that another table of a pool holds. -/
def refuseStored (database : Database) (target : String) (uris : List String) :
    List (Segment × String) → Except Error Unit
  | [] => .ok ()
  | (segment, table) :: rest =>
    if table = target then refuseStored database target uris rest
    else do
      match ← stored database table uris with
      | [] => refuseStored database target uris rest
      | uri :: _ => .error (.conflict (.storedElsewhere uri segment.uri))

/-- The statements that save objects in a segment. -/
def saveStatements (scope : StoreScope) (database : Database) (target : Segment)
    (objects : List GraphObject) (pool : List Segment) : Except Error (List Statement) := do
  let table ← scope.requireTable database target
  let uris := objects.map (·.uri)
  refuseStored database table uris (scope.poolTables database pool)
  let rows ← GraphObject.allToRows scope.registry objects
  return Statement.deleteUris table uris ++ Statement.insertAll table rows

/-- Saves objects in a segment. -/
def save (scope : StoreScope) (database : Database) (target : Segment)
    (objects : List GraphObject) (pool : List Segment) : Except Error Database := do
  database.execAll (← scope.saveStatements database target objects pool)

/-- The objects of a table, read from their rows. -/
def load (scope : StoreScope) (database : Database) (table : String) (uris : List String) :
    Except Error (List GraphObject) := do
  let rows ← (Fetching.rows table uris true).run database
  let decoded ← DecodedObject.ofBatch scope.registry scope.settings.read rows
  return decoded.map (·.object)

/-- Looks for objects in one table after the other, as long as some are missing. -/
def loadFrom (scope : StoreScope) (database : Database) (missing : List String) :
    List (Segment × String) → Except Error (List GraphObject)
  | [] => .ok []
  | (_, table) :: rest =>
    if missing.isEmpty then .ok []
    else do
      let found ← scope.load database table missing
      let still := missing.filter fun uri => !found.any (·.uri == uri)
      let others ← scope.loadFrom database still rest
      return found ++ others

/-- The objects of the given URIs, in the order in which those are first asked for. -/
def getBatch (scope : StoreScope) (database : Database) (pool : List Segment)
    (uris : List String) : Except Error (List GraphObject) := do
  let found ← scope.loadFrom database uris (scope.poolTables database pool)
  return found.mergeSort fun a b => uris.idxOf a.uri ≤ uris.idxOf b.uri

/-- The object of a URI, if a segment of the pool has it. -/
def get (scope : StoreScope) (database : Database) (pool : List Segment) (uri : String) :
    Except Error (Option GraphObject) := do
  return (← scope.getBatch database pool [uri]).head?

/-- Deletes objects from one table after the other, and counts them. -/
def deleteFrom (uris : List String) :
    List (Segment × String) → Database → Except Error (Nat × Database)
  | [], database => .ok (0, database)
  | (_, table) :: rest, database => do
    let found ← stored database table uris
    let cleared ←
      if found.isEmpty then pure database
      else database.execAll (Statement.deleteUris table found)
    let (count, last) ← deleteFrom uris rest cleared
    return (found.length + count, last)

/-- Deletes objects from the segments of a pool, and counts them. -/
def deleteBatch (scope : StoreScope) (database : Database) (pool : List Segment)
    (uris : List String) : Except Error (Nat × Database) :=
  deleteFrom uris (scope.poolTables database pool) database

/-- Deletes all objects of a segment. -/
def deleteAll (scope : StoreScope) (database : Database) (segment : Segment) :
    Except Error Database := do
  let table ← scope.requireTable database segment
  database.exec (.deleteAll table)

/-- Those of some objects that a segment holds, in ascending order. -/
def containsUris (scope : StoreScope) (database : Database) (segment : Segment)
    (uris : List String) : Except Error UriSet := do
  let table ← scope.requireTable database segment
  stored database table uris

/-- A page of a segment in the order of URIs. -/
def exportPage (scope : StoreScope) (database : Database) (segment : Segment)
    (offset limit : Nat) : Except Error ExportPage := do
  let table ← scope.requireTable database segment
  let total ← database.countObjects table
  let uris ← (Fetching.page table offset limit).run database
  let objects ← scope.load database table uris
  return ⟨objects, total, offset, limit⟩

/-- Answers a query over segments that have to exist. -/
def select (scope : StoreScope) (database : Database) (query : Query) :
    Except Error ResultList := do
  query.segments.forM fun segment => do let _ ← scope.requireTable database segment
  let search : SearchScope :=
    { registry := scope.registry, dialect := .sqlite, settings := scope.settings }
  (search.answerWith (.ofDatabase database) query).1

end StoreScope

end GraphSegments
