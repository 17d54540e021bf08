import GraphSegments.Database.Record
import GraphSegments.Sql.Statement

/-!
Which records satisfy a condition. Nothing satisfies a comparison with nothing, whichever way it
goes, so two truth values are enough: conditions are never negated as a whole.
-/

namespace GraphSegments

namespace Term

/-- The lower case of a text column is that of ASCII. -/
def datum (record : Record) : Term → Datum
  | plain column => record.cell column
  | lowered column =>
    match (record.cell column).text? with
    | some text => .text (Text.lowerAscii text)
    | none => .null

/-- A column lends its affinity to the other side; its lower case has none. -/
def operand (param : Param) : Term → Datum
  | plain column => (Datum.ofParam param).operand column.affinity
  | lowered _ => Datum.ofParam param

end Term

/-- Which texts match which patterns; the text comes first. -/
abbrev Patterns := String → String → Bool

namespace Condition

/-- Whether a column compares with a parameter as asked. -/
def compares (record : Record) (term : Term) (comparison : Comparison) (param : Param) : Bool :=
  ((term.datum record).order (term.operand param)).any comparison.accepts

/-- Whether a column equals one of the parameters. -/
def isAmong (record : Record) (column : Column) (params : List Param) : Bool :=
  params.any fun param => compares record (.plain column) .eq param

/-- Whether a column differs from every parameter, and each of them is something. -/
def differsFromAll (record : Record) (column : Column) (params : List Param) : Bool :=
  params.all fun param => compares record (.plain column) .ne param

/-- Whether the text of a column contains the text of a parameter. -/
def contains (record : Record) (term : Term) (needle : Param) : Bool :=
  match (term.datum record).text?, (Datum.ofParam needle).text? with
  | some text, some needle => Text.occursIn needle.toList text.toList
  | _, _ => false

/-- Whether the text of a column matches the text of a parameter. -/
def fitsPattern (patterns : Patterns) (record : Record) (term : Term) (pattern : Param) : Bool :=
  match (term.datum record).text?, (Datum.ofParam pattern).text? with
  | some text, some pattern => patterns text pattern
  | _, _ => false

mutual

/-- Whether a record satisfies a condition, next to all records of its table. -/
def holds (patterns : Patterns) (records : List Record) (record : Record) : Condition → Bool
  | compare term comparison param => compares record term comparison param
  | oneOf column params => isAmong record column params
  | noneOf column params => differsFromAll record column params
  | present column => record.cell column != .null
  | never => false
  | locate term needle => contains record term needle
  | matchesPattern term pattern => fitsPattern patterns record term pattern
  | among inner => records.any fun other =>
      other.uri == record.uri && holds patterns records other inner
  | notAmong inner => !records.any fun other =>
      other.uri == record.uri && holds patterns records other inner
  | all conditions => holdsAll patterns records record conditions
  | any conditions => holdsAny patterns records record conditions

def holdsAll (patterns : Patterns) (records : List Record) (record : Record) :
    List Condition → Bool
  | [] => true
  | condition :: rest =>
    holds patterns records record condition && holdsAll patterns records record rest

def holdsAny (patterns : Patterns) (records : List Record) (record : Record) :
    List Condition → Bool
  | [] => false
  | condition :: rest =>
    holds patterns records record condition || holdsAny patterns records record rest

end

end Condition

namespace Select

/-- The records that a reading statement selects, before a page is cut from them. -/
def matching (select : Select) (patterns : Patterns) (records : List Record) : List Record :=
  let found :=
    match select.filter with
    | some condition => records.filter fun record => condition.holds patterns records record
    | none => records
  if select.ordered then found.mergeSort fun a b => a.uri ≤ b.uri else found

/-- Cuts the page that a reading statement asks for. -/
def cut {α : Type} (select : Select) (items : List α) : List α :=
  match select.page with
  | some (limit, offset) => (items.drop offset).take limit
  | none => items

/-- The URIs that a statement selects. -/
def uris (select : Select) (patterns : Patterns) (records : List Record) : List String :=
  let found := (select.matching patterns records).map (·.uri)
  select.cut (if select.distinct then found.eraseDups else found)

/-- Whether two records are alike in the columns of a statement. -/
def alike (select : Select) (a b : Record) : Bool :=
  select.columns.all fun column => a.cell column == b.cell column

/-- The records that a statement selects. -/
def records (select : Select) (patterns : Patterns) (records : List Record) : List Record :=
  let found := select.matching patterns records
  select.cut (if select.distinct then found.eraseDupsBy select.alike else found)

end Select

end GraphSegments
