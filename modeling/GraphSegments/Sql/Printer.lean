import GraphSegments.Criteria
import GraphSegments.Sql.Literal
import GraphSegments.Sql.Statement

/-!
The text of statements. A statement is printed once into pieces, fixed texts and parameters;
the text with placeholders, the list of parameters and the text with literals are three views of
the pieces.
-/

namespace GraphSegments

/-- A part of a printed statement. -/
inductive Piece where
  | fixed (text : String)
  | slot (param : Param)
  deriving DecidableEq, Repr, Inhabited

namespace Piece

/-- The parameters in the order of the text. -/
def params : List Piece → List Param
  | [] => []
  | .fixed _ :: rest => params rest
  | .slot param :: rest => param :: params rest

/-- The placeholder of the parameter with a number. -/
def placeholder (dialect : Dialect) (number : Nat) : String :=
  if dialect.isPostgres then "$" ++ toString number else "?"

/-- The texts with placeholders for the parameters, the first of which has a number. -/
def withPlaceholders (dialect : Dialect) (number : Nat) : List Piece → List String
  | [] => []
  | .fixed text :: rest => text :: withPlaceholders dialect number rest
  | .slot _ :: rest =>
    placeholder dialect number :: withPlaceholders dialect (number + 1) rest

/-- The text with placeholders. -/
def sql (dialect : Dialect) (pieces : List Piece) : String :=
  String.join (withPlaceholders dialect 1 pieces)

/-- The text with literals. -/
def literalSql (dialect : Dialect) (pieces : List Piece) : String :=
  String.join <| pieces.map fun
    | .fixed text => text
    | .slot param => dialect.literal param

/-- Pieces with a separator between them. -/
def separated (separator : String) : List (List Piece) → List Piece
  | [] => []
  | [pieces] => pieces
  | pieces :: rest => pieces ++ .fixed separator :: separated separator rest

/-- Parameters with commas between them. -/
def list (params : List Param) : List Piece := separated ", " (params.map fun param => [.slot param])

end Piece

/-- What a printed condition is, which decides on its parentheses. -/
inductive PhraseKind where
  /-- A comparison, a membership or a constant. -/
  | plain
  /-- Text that the dialects write each in their own way. -/
  | custom
  | tree (connective : Connective)
  deriving DecidableEq, Repr

/-- A printed condition. -/
structure Phrase where
  kind : PhraseKind
  pieces : List Piece

namespace Phrase

def parenthesized (phrase : Phrase) : List Piece :=
  .fixed "(" :: phrase.pieces ++ [.fixed ")"]

/-- The left side of an operator: a tree of the same operator needs no parentheses. -/
def left (connective : Connective) (phrase : Phrase) : List Piece :=
  if phrase.kind = .plain ∨ phrase.kind = .tree connective then phrase.pieces
  else phrase.parenthesized

/-- The right side of an operator: every tree has parentheses. -/
def right (phrase : Phrase) : List Piece :=
  if phrase.kind = .plain then phrase.pieces else phrase.parenthesized

def word : Connective → String
  | .and => " AND "
  | .or => " OR "

/-- Two phrases with an operator between them. -/
def join (connective : Connective) (a b : Phrase) : Phrase :=
  ⟨.tree connective, a.left connective ++ .fixed (word connective) :: b.right⟩

/-- A list of phrases as a tree that grows to the left. A single one stands for itself, and none
for the neutral constant. -/
def joinAll (connective : Connective) : List Phrase → Phrase
  | [] => ⟨.plain, [.fixed (match connective with | .and => "TRUE" | .or => "FALSE")]⟩
  | first :: rest => rest.foldl (join connective) first

end Phrase

namespace Dialect

def term (dialect : Dialect) : Term → String
  | .plain column => dialect.column column
  | .lowered column => "LOWER(" ++ dialect.column column ++ ")"

/-- A membership. An empty list is written as a comparison of two numbers. -/
def membership (dialect : Dialect) (column : Column) (word : String) (empty : Int × Int)
    (params : List Param) : List Piece :=
  if params.isEmpty then
    [.slot (.i32 (some empty.1)), .fixed " = ", .slot (.i32 (some empty.2))]
  else
    .fixed (dialect.column column ++ " " ++ word ++ " (") :: Piece.list params ++ [.fixed ")"]

/-- The position of a text in a column, compared with zero. PostgreSQL's text has lost both the
column and the text. -/
def locate (dialect : Dialect) (term : Term) (needle : Param) : List Piece :=
  (match dialect with
  | sqlite => [.fixed ("(instr(" ++ dialect.term term ++ ", "), .slot needle, .fixed ")) > "]
  | mysql => [.fixed "(LOCATE(", .slot needle, .fixed (", " ++ dialect.term term ++ ")) > ")]
  | postgres | redshift => [.fixed "(strpos(?, ?)) > "]) ++ [.slot (.i32 (some 0))]

/-- A match with a pattern. PostgreSQL's text has lost both sides. -/
def matchesPattern (dialect : Dialect) (term : Term) (pattern : Param) : List Piece :=
  match dialect with
  | postgres | redshift => [.fixed "? ~ ?"]
  | sqlite | mysql => [.fixed (dialect.term term ++ " REGEXP "), .slot pattern]

/-- The beginning of the statement that selects the objects of a table. -/
def selectObjects (dialect : Dialect) (table : String) : String :=
  "SELECT DISTINCT " ++ dialect.column .uri ++ " FROM " ++ dialect.identifier table

/-- The objects that are, or are not, selected by a condition. -/
def subquery (dialect : Dialect) (table word : String) (inner : Phrase) : Phrase :=
  ⟨.plain, .fixed (dialect.column .uri ++ " " ++ word ++ " (" ++ dialect.selectObjects table ++
    " WHERE ") :: inner.pieces ++ [.fixed ")"]⟩

mutual

/-- Prints a condition on the rows of a table. -/
def phrase (dialect : Dialect) (table : String) : Condition → Phrase
  | .compare term comparison param =>
    ⟨.plain, [.fixed (dialect.term term ++ " " ++ comparison.symbol ++ " "), .slot param]⟩
  | .oneOf column params => ⟨.plain, dialect.membership column "IN" (1, 2) params⟩
  | .noneOf column params => ⟨.plain, dialect.membership column "NOT IN" (1, 1) params⟩
  | .present column => ⟨.plain, [.fixed (dialect.column column ++ " IS NOT NULL")]⟩
  | .never => ⟨.custom, [.fixed "1 = 0"]⟩
  | .locate term needle => ⟨.plain, dialect.locate term needle⟩
  | .matchesPattern term pattern => ⟨.custom, dialect.matchesPattern term pattern⟩
  | .among inner => dialect.subquery table "IN" (phrase dialect table inner)
  | .notAmong inner => dialect.subquery table "NOT IN" (phrase dialect table inner)
  | .all conditions => Phrase.joinAll .and (phrases dialect table conditions)
  | .any conditions => Phrase.joinAll .or (phrases dialect table conditions)

def phrases (dialect : Dialect) (table : String) : List Condition → List Phrase
  | [] => []
  | condition :: rest => phrase dialect table condition :: phrases dialect table rest

end

/-- Prints a reading statement. -/
def selectPieces (dialect : Dialect) (select : Select) : List Piece :=
  let columns := ", ".intercalate (select.columns.map dialect.column)
  .fixed ("SELECT " ++ (if select.distinct then "DISTINCT " else "") ++ columns ++ " FROM " ++
      dialect.identifier select.table) ::
    (match select.filter with
      | some condition => .fixed " WHERE " :: (dialect.phrase select.table condition).pieces
      | none => []) ++
    (if select.ordered then [.fixed (" ORDER BY " ++ dialect.column .uri ++ " ASC")] else []) ++
    (match select.page with
      | some (limit, offset) =>
        [.fixed " LIMIT ", .slot (.u64 (some limit)), .fixed " OFFSET ",
          .slot (.u64 (some offset))]
      | none => [])

/-- Identifiers with commas between them. -/
def identifiers (dialect : Dialect) (names : List String) : String :=
  ", ".intercalate (names.map dialect.identifier)

def catalogSelect (dialect : Dialect) : String :=
  "SELECT " ++ dialect.identifiers ["segment_id", "segment_uri", "table_name"] ++ " FROM " ++
    dialect.identifier Statement.catalogTable

def columnDefinition (dialect : Dialect) (column : Column) : String :=
  dialect.column column ++ " " ++ dialect.columnType column ++
    if column.isRequired then " NOT NULL" else ""

/-- One row of an insertion. -/
def valuesPieces (params : List Param) : List Piece :=
  .fixed "(" :: Piece.list params ++ [.fixed ")"]

/-- Prints a statement. -/
def statementPieces (dialect : Dialect) : Statement → List Piece
  | .select select => dialect.selectPieces select
  | .countObjects table =>
    [.fixed ("SELECT COUNT(DISTINCT " ++ dialect.column .uri ++ ") AS " ++
      dialect.identifier "total" ++ " FROM " ++ dialect.identifier table)]
  | .insertRows table rows =>
    .fixed ("INSERT INTO " ++ dialect.identifier table ++ " (" ++
      ", ".intercalate (Column.all.map dialect.column) ++ ") VALUES ") ::
      Piece.separated ", " (rows.map fun row => valuesPieces row.insertValues)
  | .deleteObjects table uris =>
    .fixed ("DELETE FROM " ++ dialect.identifier table ++ " WHERE ") ::
      (dialect.phrase table (.columnIn .uri uris)).pieces
  | .deleteAll table => [.fixed ("DELETE FROM " ++ dialect.identifier table)]
  | .createTable table =>
    [.fixed ("CREATE TABLE " ++ dialect.identifier table ++ " ( " ++
      ", ".intercalate (Column.all.map dialect.columnDefinition) ++ " )")]
  | .createIndex table column =>
    [.fixed ("CREATE INDEX " ++ dialect.marked (Statement.indexName table column) ++ " ON " ++
      dialect.identifier table ++ " (" ++ dialect.column column ++ ")")]
  | .dropTable table => [.fixed ("DROP TABLE " ++ dialect.identifier table)]
  | .listTables => [.fixed dialect.showTables]
  | .catalogInsert id uri table createdAt =>
    .fixed ("INSERT INTO " ++ dialect.identifier Statement.catalogTable ++ " (" ++
      dialect.identifiers Statement.catalogColumns ++ ") VALUES ") ::
      valuesPieces [.ofText id, .ofText uri, .ofText table, .i64 (some createdAt)]
  | .catalogRemove uri =>
    [.fixed ("DELETE FROM " ++ dialect.identifier Statement.catalogTable ++ " WHERE " ++
      dialect.identifier "segment_uri" ++ " = "), .slot (.ofText uri)]
  | .catalogFind uri =>
    [.fixed (dialect.catalogSelect ++ " WHERE " ++ dialect.identifier "segment_uri" ++ " = "),
      .slot (.ofText uri)]
  | .catalogList =>
    [.fixed (dialect.catalogSelect ++ " ORDER BY " ++ dialect.identifier "segment_id" ++ " ASC")]

end Dialect

end GraphSegments
