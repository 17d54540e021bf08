import GraphSegments.Sql.Condition
import GraphSegments.Table.Row

/-!
The statements that the store runs.
-/

namespace GraphSegments

/-- A reading statement over a segment table. -/
structure Select where
  distinct : Bool
  columns : List Column
  table : String
  filter : Option Condition
  /-- Whether rows come by ascending URI. -/
  ordered : Bool
  /-- The most rows that come, and how many are skipped before them. -/
  page : Option (Nat × Nat)
  deriving Repr, Inhabited

namespace Select

/-- The objects with a row that satisfies a condition. -/
def objects (table : String) (condition : Condition) : Select :=
  ⟨true, [.uri], table, some condition, false, none⟩

/-- One row that satisfies a condition. -/
def oneRow (table : String) (condition : Condition) : Select :=
  ⟨false, [.uri], table, some condition, false, some (1, 0)⟩

/-- All objects of a table. -/
def everyObject (table : String) : Select := ⟨true, [.uri], table, none, true, none⟩

/-- A page of the objects of a table. -/
def pageOfObjects (table : String) (offset limit : Nat) : Select :=
  ⟨true, [.uri], table, none, true, some (limit, offset)⟩

/-- Those of the given objects that a table has. -/
def objectsAmong (table : String) (uris : List String) : Select :=
  .objects table (.columnIn .uri uris)

/-- All columns, with or without the one for full texts. -/
def rowColumns (withFullText : Bool) : List Column :=
  if withFullText then Column.all else Column.all.filter (· != .fullText)

/-- The rows of the given objects. -/
def rowsOf (table : String) (uris : List String) (withFullText : Bool) : Select :=
  ⟨false, rowColumns withFullText, table, some (.columnIn .uri uris), true, none⟩

/-- The rows of the given objects that hold one of the given properties. -/
def propertyRows (table : String) (names uris : List String) : Select :=
  ⟨false, rowColumns true, table,
    some (.all [.columnIn .name names, .columnIn .uri uris]), false, none⟩

/-- The rows of the given objects that have a full text. -/
def fullTextRows (table : String) (uris : List String) : Select :=
  ⟨false, [.uri, .name, .fullText], table,
    some (.all [.columnIn .uri uris, .present .fullText]), false, none⟩

/-- The given objects with their timestamps. -/
def timestamps (table : String) (uris : List String) : Select :=
  ⟨true, [.uri, .tstamp], table, some (.columnIn .uri uris), false, none⟩

end Select

/-- A statement of the store. Only the statements on segment tables have a variable shape. -/
inductive Statement where
  | select (statement : Select)
  | countObjects (table : String)
  | insertRows (table : String) (rows : List Row)
  | deleteObjects (table : String) (uris : List String)
  | deleteAll (table : String)
  | createTable (table : String)
  | createIndex (table : String) (column : Column)
  | dropTable (table : String)
  | listTables
  | catalogInsert (id uri table : String) (createdAt : Nat)
  | catalogRemove (uri : String)
  | catalogFind (uri : String)
  | catalogList
  deriving Repr, Inhabited

namespace Statement

/-- The table in which the store keeps its segments. -/
def catalogTable : String := "vitalsql_segments"

/-- The columns of that table. -/
def catalogColumns : List String := ["segment_id", "segment_uri", "table_name", "created_at"]

/-- The index by which the catalog keeps its URIs apart. -/
def catalogIndex : String := "idx_vitalsql_segments_uri"

/-- The name of the index of a table on a column. -/
def indexName (table : String) (column : Column) : String := table ++ "_" ++ column.label ++ "_idx"

/-- The most rows that one statement inserts. -/
def insertBatch : Nat := 100

/-- The most URIs that one statement names. -/
def uriBatch : Nat := 1000

/-- The parts of a list, in order, each as long as `size` but the last. -/
def chunksWithin {α : Type} (size : Nat) : Nat → List α → List (List α)
  | 0, _ => []
  | _, [] => []
  | steps + 1, items => items.take size :: chunksWithin size steps (items.drop size)

/-- The parts of a list, in order, each as long as `size` but the last. -/
def chunks {α : Type} (size : Nat) (items : List α) : List (List α) :=
  chunksWithin size items.length items

/-- The statements that insert rows. -/
def insertAll (table : String) (rows : List Row) : List Statement :=
  (chunks insertBatch rows).map (insertRows table)

/-- The statements that delete objects. -/
def deleteUris (table : String) (uris : List String) : List Statement :=
  (chunks uriBatch uris).map (deleteObjects table)

/-- The statements that create a segment table with its two indexes. -/
def createSegment (table : String) : List Statement :=
  [createTable table, createIndex table .uri, createIndex table .name]

end Statement

end GraphSegments
