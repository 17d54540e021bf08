import GraphSegments.Value

/-!
The 29 columns of a segment table: five that describe the object, the name of a property, one for
each kind of value in either cardinality, and one for long texts.
-/

namespace GraphSegments

inductive Column where
  | uri | name | vitaltype | external | tstamp | channel
  | value (kind : ValueKind) (multi : Bool)
  | fullText
  deriving DecidableEq, Repr, Inhabited

namespace Column

/-- Both columns of a kind. -/
def ofKind (kind : ValueKind) : List Column := [value kind false, value kind true]

/-- All columns in the order in which a table has them. -/
def all : List Column :=
  [uri, name, vitaltype, external, tstamp, channel] ++
    (ValueKind.all.filter (· != .uri)).flatMap ofKind ++ fullText :: ofKind .uri

theorem mem_all (column : Column) : column ∈ all := by
  cases column with
  | value kind multi => cases kind <;> cases multi <;> decide
  | _ => decide

theorem length_all : all.length = 29 := by decide

/-- The value columns in the order in which they are read. -/
def valueColumns : List (ValueKind × Bool) :=
  ValueKind.all.flatMap fun kind => [(kind, false), (kind, true)]

/-- The name of a column in a table. -/
def label : Column → String
  | uri => "uri"
  | name => "name"
  | vitaltype => "vitaltype"
  | external => "external"
  | tstamp => "tstamp"
  | channel => "channeluri"
  | value kind multi => "value_" ++ kind.name ++ if multi then "_multivalue" else ""
  | fullText => "value_full_text"

/-- Columns that may not be empty. -/
def isRequired : Column → Bool
  | uri | name | vitaltype => true
  | _ => false

end Column

end GraphSegments
