import GraphSegments.Database.Datum
import GraphSegments.Table.Row
import GraphSegments.Value.Point

/-!
Records: what a table holds of a row, column by column. Reading a record takes the first value
column that is filled, so a record with several of them still reads as one value.
-/

namespace GraphSegments

/-- A row of a table. The columns that may not be empty always hold texts. -/
structure Record where
  uri : String
  name : String
  vitaltype : String
  external : Datum
  tstamp : Datum
  channel : Datum
  value : ValueKind → Bool → Datum
  fullText : Datum

namespace Record

def cell (record : Record) : Column → Datum
  | .uri => .text record.uri
  | .name => .text record.name
  | .vitaltype => .text record.vitaltype
  | .external => record.external
  | .tstamp => record.tstamp
  | .channel => record.channel
  | .value kind multi => record.value kind multi
  | .fullText => record.fullText

/-- The datum that a row's parameter leaves in a column. -/
def stored (row : Row) (column : Column) : Datum :=
  (Datum.ofParam (row.param column)).store column.affinity

/-- A record of which nothing is known but its object. -/
def ofUri (uri : String) : Record where
  uri := uri
  name := ""
  vitaltype := ""
  external := .null
  tstamp := .null
  channel := .null
  value := fun _ _ => .null
  fullText := .null

/-- The record that inserting a row creates. -/
def ofRow (row : Row) : Record where
  uri := row.uri
  name := row.name
  vitaltype := row.vitaltype
  external := stored row .external
  tstamp := stored row .tstamp
  channel := stored row .channel
  value := fun kind multi => stored row (.value kind multi)
  fullText := stored row .fullText

/-- Sets one column. A column that may not be empty refuses nothing. -/
def setCell (record : Record) (column : Column) (param : Param) : Except Error Record :=
  let datum := (Datum.ofParam param).store column.affinity
  match column, datum with
  | .uri, .text s => .ok { record with uri := s }
  | .name, .text s => .ok { record with name := s }
  | .vitaltype, .text s => .ok { record with vitaltype := s }
  | .uri, _ | .name, _ | .vitaltype, _ => .error .storage
  | .external, datum => .ok { record with external := datum }
  | .tstamp, datum => .ok { record with tstamp := datum }
  | .channel, datum => .ok { record with channel := datum }
  | .fullText, datum => .ok { record with fullText := datum }
  | .value kind multi, datum =>
    .ok { record with
      value := fun k m => if k = kind ∧ m = multi then datum else record.value k m }

/-- A whole number of some bits, if the column holds one. -/
def whole (bits : Nat) : Datum → Except Error Int
  | .int n =>
    if -Nat.pow 2 (bits - 1) ≤ n ∧ n < Nat.pow 2 (bits - 1) then .ok n else .error .storage
  | _ => .error .storage

def double : Datum → Except Error Double
  | .real x => .ok x
  | _ => .error .storage

def text : Datum → Except Error String
  | .text s => .ok s
  | _ => .error .storage

/-- An optional column: empty, or read. -/
def optional {α : Type} (read : Datum → Except Error α) : Datum → Except Error (Option α)
  | .null => .ok none
  | datum => do return some (← read datum)

/-- Reads a filled value column of a kind. -/
def readKind (kind : ValueKind) (datum : Datum) : Except Error Value :=
  match kind with
  | .boolean => do return .boolean ((← whole 64 datum) != 0)
  | .date => do return .date (.ofInt (← whole 64 datum))
  | .double => do return .double (← double datum)
  | .float => do return .float (← double datum).toSingle
  | .geolocation => do return .geolocation (← GeoLocation.read (← text datum))
  | .integer => do return .integer (.ofInt (← whole 32 datum))
  | .long => do return .long (.ofInt (← whole 64 datum))
  | .other => do return .other (← text datum)
  | .string => do return .string (← text datum)
  | .truth => do
    let code ← whole 16 datum
    match Truth.ofCode? code with
    | some truth => return .truth truth
    | none => .error (.integrity (.truthCode code))
  | .uri => do return .uri (← text datum)

/-- The value in the first filled one of some value columns. -/
def firstValue (record : Record) : List (ValueKind × Bool) → Except Error (Value × Bool)
  | [] => .error (.integrity .emptyRow)
  | (kind, multi) :: rest => do
    match ← optional (readKind kind) (record.value kind multi) with
    | some value => return (value, multi)
    | none => record.firstValue rest

/-- Reads a record as a row. -/
def toRow (withFullText : Bool) (record : Record) : Except Error Row := do
  let (value, multi) ← record.firstValue Column.valueColumns
  let fullText ← if withFullText then optional text record.fullText else .ok none
  let external ← whole 64 record.external
  let tstamp ← optional (whole 64) record.tstamp
  let channel ← optional text record.channel
  return {
    uri := record.uri
    name := record.name
    vitaltype := record.vitaltype
    external := external != 0
    tstamp := tstamp.map Int64.ofInt
    channel := channel
    value := value
    multi := multi
    fullText := fullText }

end Record

/-- Reads records one by one until one fails. -/
def Record.toRows (withFullText : Bool) : List Record → Except Error (List Row)
  | [] => .ok []
  | record :: rest => do
    let row ← record.toRow withFullText
    let rows ← toRows withFullText rest
    return row :: rows

end GraphSegments
