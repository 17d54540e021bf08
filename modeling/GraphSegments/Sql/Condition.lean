import GraphSegments.Sql.Param
import GraphSegments.Table.Column

/-!
Conditions on the rows of a segment table.
-/

namespace GraphSegments

/-- How a column is compared with a parameter. -/
inductive Comparison where
  | eq | ne | ge | gt | le | lt
  deriving DecidableEq, Repr, Inhabited

namespace Comparison

def symbol : Comparison → String
  | eq => "="
  | ne => "<>"
  | ge => ">="
  | gt => ">"
  | le => "<="
  | lt => "<"

/-- Whether a comparison accepts an order of its sides. -/
def accepts : Comparison → Ordering → Bool
  | eq, ordering => ordering == .eq
  | ne, ordering => ordering != .eq
  | ge, ordering => ordering != .lt
  | gt, ordering => ordering == .gt
  | le, ordering => ordering != .gt
  | lt, ordering => ordering == .lt

end Comparison

/-- A column, or its lower case. -/
inductive Term where
  | plain (column : Column)
  | lowered (column : Column)
  deriving DecidableEq, Repr, Inhabited

/-- A condition on one row. `among` asks whether some row of the same object satisfies another
condition. -/
inductive Condition where
  | compare (term : Term) (comparison : Comparison) (param : Param)
  | oneOf (column : Column) (params : List Param)
  | noneOf (column : Column) (params : List Param)
  | present (column : Column)
  | never
  | locate (term : Term) (needle : Param)
  | matchesPattern (term : Term) (pattern : Param)
  | among (inner : Condition)
  | notAmong (inner : Condition)
  | all (conditions : List Condition)
  | any (conditions : List Condition)
  deriving Repr, Inhabited

namespace Condition

/-- A column that equals a text. -/
def columnIs (column : Column) (text : String) : Condition :=
  .compare (.plain column) .eq (.ofText text)

/-- A text column that is among texts. -/
def columnIn (column : Column) (texts : List String) : Condition :=
  .oneOf column (texts.map .ofText)

end Condition

end GraphSegments
