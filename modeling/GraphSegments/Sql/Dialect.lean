import GraphSegments.Table.Column

/-!
The four SQL dialects: what they call column types, how they quote, number and escape.
-/

namespace GraphSegments

inductive Dialect where
  | sqlite | mysql | postgres | redshift
  deriving DecidableEq, Repr, Inhabited

namespace Dialect

def all : List Dialect := [sqlite, mysql, postgres, redshift]

def name : Dialect → String
  | sqlite => "sqlite"
  | mysql => "mysql"
  | postgres => "postgres"
  | redshift => "redshift"

/-- The dialect of a name; any other name stands for SQLite. -/
def ofName (text : String) : Dialect := (all.find? (·.name == text)).getD sqlite

/-- The two dialects that share one way of writing statements. -/
def isPostgres : Dialect → Bool
  | postgres | redshift => true
  | _ => false

/-- The statement whose first column lists the tables. -/
def showTables : Dialect → String
  | sqlite => "SELECT name FROM sqlite_master WHERE type = 'table'"
  | mysql => "show tables"
  | postgres | redshift =>
    "SELECT tablename FROM pg_catalog.pg_tables WHERE schemaname != 'pg_catalog' AND schemaname != 'information_schema'"

/-- The type of long text columns. -/
def longText : Dialect → String
  | redshift => "VARCHAR(65535)"
  | _ => "TEXT"

/-- The type of a column. -/
def columnType (dialect : Dialect) : Column → String
  | .external => "BOOLEAN"
  | .tstamp => "BIGINT"
  | .fullText => if dialect = mysql then "LONGTEXT" else dialect.longText
  | .value kind _ =>
    match kind with
    | .boolean => "BOOLEAN"
    | .date | .long => "BIGINT"
    | .integer => "INTEGER"
    | .truth => if dialect = mysql then "TINYINT" else "SMALLINT"
    | .double =>
      match dialect with
      | mysql => "DOUBLE"
      | sqlite => "REAL"
      | postgres | redshift => "DOUBLE PRECISION"
    | .float => if dialect = mysql then "FLOAT" else "REAL"
    | .other | .string => dialect.longText
    | .geolocation | .uri => "VARCHAR(255)"
  | _ => "VARCHAR(255)"

/-- The mark around identifiers. -/
def identifierMark : Dialect → Char
  | mysql => Char.ofNat 96
  | _ => Char.ofNat 34

/-- An identifier in its marks, which are doubled inside. -/
def identifier (dialect : Dialect) (name : String) : String :=
  let mark := dialect.identifierMark
  String.ofList (mark :: (name.toList.flatMap fun c => if c = mark then [c, c] else [c]) ++ [mark])

/-- A name in marks as it is, which is how the names of indexes are written. -/
def marked (dialect : Dialect) (name : String) : String :=
  let mark := dialect.identifierMark
  String.ofList (mark :: name.toList ++ [mark])

/-- A column in its marks. -/
def column (dialect : Dialect) (column : Column) : String := dialect.identifier column.label

end Dialect

end GraphSegments
