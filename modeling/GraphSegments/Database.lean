import GraphSegments.Database.Matching
import GraphSegments.Query
import GraphSegments.Sql.Command
import GraphSegments.Sql.Printer

/-!
The database behind a store: tables of records by name, their indexes, and the catalog of segments.
Statements that change it either do so as a whole or fail and leave it alone. Letter case makes no
difference between names.
-/

namespace GraphSegments

/-- What the catalog knows of a segment. -/
structure CatalogEntry where
  segment : Segment
  table : String
  deriving DecidableEq, Repr

/-- An index has a name of its own, but goes with its table. -/
structure TableIndex where
  name : String
  table : String
  deriving DecidableEq, Repr

/-- The contents of a database. The catalog can be missing. -/
structure Database where
  tables : List (String × List Record)
  indexes : List TableIndex
  catalog : Option (List CatalogEntry)
  /-- Whether the catalog has been set up, as far as the database remembers. -/
  prepared : Bool
  patterns : Patterns

namespace Database

/-- A database without tables, not even a catalog, in which no text matches any pattern. -/
def empty : Database := ⟨[], [], none, false, fun _ _ => false⟩

/-- Whether two names mean the same. -/
def sameName (a b : String) : Bool := Text.lowerAscii a == Text.lowerAscii b

def records? (database : Database) (table : String) : Option (List Record) :=
  (database.tables.find? fun known => sameName known.1 table).map (·.2)

/-- The records of a table that has to be there. -/
def recordsOf (database : Database) (table : String) : Except Error (List Record) :=
  match database.records? table with
  | some records => .ok records
  | none => .error .storage

def tableNames (database : Database) : List String := database.tables.map (·.1)

/-- Replaces the records of a table. -/
def setRecords (database : Database) (table : String) (records : List Record) : Database :=
  { database with
    tables := database.tables.map fun (name, old) =>
      (name, if sameName name table then records else old) }

/-- Drops a table with its indexes, if it is there. -/
def drop (database : Database) (table : String) : Database :=
  { database with
    tables := database.tables.filter fun known => !sameName known.1 table
    indexes := database.indexes.filter fun index => !sameName index.table table }

/-- Drops the catalog with its indexes, or the table of records in its place. -/
def dropCatalog (database : Database) : Database :=
  { database.drop Statement.catalogTable with catalog := none }

/-- The table in which the database remembers what has been set up. -/
def memoryTable : String := "seaql_migrations"

/-- The tables that the database keeps for itself. -/
def ownTables (database : Database) : List String :=
  memoryTable :: if database.catalog.isSome then [Statement.catalogTable] else []

/-- What the names of tables and indexes must not start with. -/
def reservedStart : String := "sqlite_"

/-- Whether a table or index cannot have a name, because another one has it or no one can. -/
def isTaken (database : Database) (name : String) : Bool :=
  (Text.stripText? reservedStart (Text.lowerAscii name)).isSome ||
    name.toList.contains (Char.ofNat 0) ||
    (database.ownTables ++ database.tableNames ++ database.indexes.map (·.name)).any
      (sameName name)

/-- Adds an index to a table. -/
def addIndex (database : Database) (index : TableIndex) : Except Error Database :=
  if database.isTaken index.name then .error .storage
  else .ok { database with indexes := database.indexes ++ [index] }

/-- The names of the columns of a table, if there is such a table. -/
def columnNames? (database : Database) (table : String) : Option (List String) :=
  if sameName table memoryTable then some ["version", "applied_at"]
  else if database.catalog.isSome && sameName table Statement.catalogTable then
    some Statement.catalogColumns
  else (database.records? table).map fun _ => Column.all.map (·.label)

/-- The ways of comparing that a database knows. -/
def collations : List String := ["binary", "nocase", "rtrim"]

/-- Whether an index of a table can have a column. -/
def admits (columns : List String) (column : IndexedColumn) : Bool :=
  (column.canBeConstant || columns.any (sameName column.name)) &&
    column.collation.all fun collation => collations.any (sameName collation)

/-- Whether a schema, where one is named, is that of the database. -/
def isOwnSchema (name : QualifiedName) : Bool := name.schema.all (sameName "main")

/-- Runs a command. -/
def runCommand (database : Database) : SchemaCommand → Except Error Database
  | .createIndex lenient index table columns =>
    match database.columnNames? table with
    | none => .error .storage
    | some known =>
      if !isOwnSchema index then .error .storage
      else if lenient && database.indexes.any fun other => sameName other.name index.name then
        .ok database
      else if columns.all (admits known) then database.addIndex ⟨index.name, table⟩
      else .error .storage
  | .dropIndex lenient index =>
    if isOwnSchema index && database.indexes.any fun other => sameName other.name index.name then
      .ok { database with
        indexes := database.indexes.filter fun other => !sameName other.name index.name }
    else if lenient then .ok database
    else .error .storage
  | .dropTable lenient table =>
    if isOwnSchema table && (database.records? table.name).isSome then
      .ok (database.drop table.name)
    else if isOwnSchema table && database.catalog.isSome &&
        sameName table.name Statement.catalogTable then
      .ok database.dropCatalog
    else if lenient then .ok database
    else .error .storage

/-- Runs the commands of a text in turn until one fails. What the ones before it did stays. -/
def runCommands (database : Database) : List (Option SchemaCommand) → Except Error Unit × Database
  | [] => (.ok (), database)
  | none :: _ => (.error .storage, database)
  | some command :: rest =>
    match database.runCommand command with
    | .error error => (.error error, database)
    | .ok next => next.runCommands rest

/-- Creates the index of a table on a column. The name of the index stands in marks as it is, so a
mark in it ends it, and what follows is part of the statement. -/
def createIndex (database : Database) (table : String) (column : Column) :
    Except Error Unit × Database :=
  let name := Statement.indexName table column
  if name.toList.contains Dialect.sqlite.identifierMark then
    database.runCommands
      (SchemaCommand.ofText
        (Piece.sql .sqlite (Dialect.sqlite.statementPieces (.createIndex table column))))
  else
    match database.recordsOf table >>= fun _ => database.addIndex ⟨name, table⟩ with
    | .error error => (.error error, database)
    | .ok indexed => (.ok (), indexed)

/-- The entries of the catalog. A table of records under its name reads as a catalog without
entries. -/
def catalogRows (database : Database) : Except Error (List CatalogEntry) :=
  match database.catalog with
  | some entries => .ok entries
  | none => do
    let _ ← database.recordsOf Statement.catalogTable
    return []

/-- Runs a statement that changes the database. -/
def exec (database : Database) : Statement → Except Error Database
  | .insertRows table rows => do
    let records ← database.recordsOf table
    return database.setRecords table (records ++ rows.map Record.ofRow)
  | .deleteObjects table uris => do
    let records ← database.recordsOf table
    return database.setRecords table (records.filter fun record =>
      !(Condition.columnIn .uri uris).holds database.patterns records record)
  | .deleteAll table => do
    let _ ← database.recordsOf table
    return database.setRecords table []
  | .createTable table =>
    if database.isTaken table then .error .storage
    else .ok { database with tables := database.tables ++ [(table, [])] }
  | .createIndex table column =>
    let (outcome, indexed) := database.createIndex table column
    outcome.map fun _ => indexed
  | .dropTable table => do
    let _ ← database.recordsOf table
    return database.drop table
  | .catalogInsert id uri table _ =>
    match database.catalog with
    | none => .error .storage
    | some entries =>
      if entries.any fun entry => entry.segment.id == id || entry.segment.uri == uri then
        .error .storage
      else .ok { database with catalog := some (entries ++ [⟨⟨id, uri⟩, table⟩]) }
  | .catalogRemove uri => do
    let _ ← database.catalogRows
    return { database with
      catalog := database.catalog.map fun entries => entries.filter (·.segment.uri != uri) }
  | .select _ | .countObjects _ | .listTables | .catalogFind _ | .catalogList => .ok database

/-- Runs statements one after the other, all of them or none. -/
def execAll (database : Database) (statements : List Statement) : Except Error Database :=
  statements.foldlM exec database

/-- Runs statements one after the other until one fails. What the ones before it did stays. -/
def execInTurn (database : Database) : List Statement → Except Error Unit × Database
  | [] => (.ok (), database)
  | .createIndex table column :: rest =>
    match database.createIndex table column with
    | (.error error, left) => (.error error, left)
    | (.ok _, next) => next.execInTurn rest
  | statement :: rest =>
    match database.exec statement with
    | .error error => (.error error, database)
    | .ok next => next.execInTurn rest

/-- Creates the catalog where there is none. -/
def createCatalog (database : Database) : Database :=
  match database.catalogRows with
  | .ok _ => database
  | .error _ => { database with catalog := some [] }

/-- Sets up the catalog with its index, unless the database remembers that this has been done. -/
def setUp (database : Database) : Except Error Unit × Database :=
  if database.prepared then (.ok (), database)
  else
    let created := database.createCatalog
    match created.addIndex ⟨Statement.catalogIndex, Statement.catalogTable⟩ with
    | .error error => (.error error, created)
    | .ok indexed => (.ok (), { indexed with prepared := true })

/-- Drops the catalog and forgets that it has been set up. -/
def tearDown (database : Database) : Database :=
  if database.prepared then
    { database.dropCatalog with prepared := false }
  else database

/-- Sets a column, by its name, in the rows that an object has of a property, and counts them. -/
def setColumn (database : Database) (table uri name label : String) (param : Param) :
    Except Error (Nat × Database) := do
  let records ← database.recordsOf table
  match Column.all.find? fun column => sameName column.label label with
  | none => .error .storage
  | some column =>
    let isMeant (record : Record) : Bool := record.uri == uri && record.name == name
    let changed ← records.mapM fun record =>
      if isMeant record then record.setCell column param else .ok record
    return ((records.filter isMeant).length, database.setRecords table changed)

/-- The entries of the catalog by ascending id. -/
def catalogEntries (database : Database) : Except Error (List CatalogEntry) := do
  return (← database.catalogRows).mergeSort fun a b => a.segment.id ≤ b.segment.id

/-- The entry of a segment, if the catalog has one. -/
def catalogFind (database : Database) (uri : String) : Except Error (Option CatalogEntry) := do
  return (← database.catalogRows).find? (·.segment.uri == uri)

/-- The deepest condition that the database reads. -/
def deepest : Nat := 1000

/-- How many objects a table holds. -/
def countObjects (database : Database) (table : String) : Except Error Nat := do
  let records ← database.recordsOf table
  return (records.map (·.uri)).eraseDups.length

end Database

end GraphSegments
