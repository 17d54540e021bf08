import GraphSegments.Sql.Param
import GraphSegments.Table.Column

/-!
Rows of a segment table: one value of one property of one object, next to what the table repeats
for every row of the object.
-/

namespace GraphSegments

/-- One value of one property of one object. -/
structure Row where
  uri : String
  name : String
  vitaltype : String
  /-- No ontology defines the property. -/
  external : Bool
  tstamp : Option Int64
  channel : Option String
  value : Value
  multi : Bool
  /-- The text that was too long for its column. -/
  fullText : Option String
  deriving DecidableEq, Repr, Inhabited

namespace Row

/-- What a row puts into a column. -/
def param (row : Row) : Column → Param
  | .uri => .ofText row.uri
  | .name => .ofText row.name
  | .vitaltype => .ofText row.vitaltype
  | .external => .bool (some row.external)
  | .tstamp => .i64 (row.tstamp.map (·.toInt))
  | .channel => .text row.channel
  | .fullText => .text row.fullText
  | .value kind multi =>
    if kind = row.value.kind ∧ multi = row.multi then .ofValue row.value else .absent kind

/-- What a row puts into all columns, in the order in which a table has them. -/
def insertValues (row : Row) : List Param := Column.all.map row.param

end Row

end GraphSegments
