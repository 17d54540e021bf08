import Mathlib.Data.List.Infix
import GraphSegments.Criteria
import GraphSegments.Object

/-!
What criteria say of an object. Nothing here knows of rows, columns or sets: this is the meaning
that searches are held against.
-/

namespace GraphSegments

namespace Value

/-- The number that a value of a whole kind is. -/
def whole? : Value → Option Int
  | date n | long n => some n.toInt
  | integer n => some n.toInt
  | _ => none

/-- Whether a text contains another one. -/
def includes (text part : Value) : Bool :=
  match text.text?, part.text? with
  | some text, some part => decide (part.toList <:+: text.toList)
  | _, _ => false

end Value

namespace Comparator

/-- Whether two numbers stand as a comparator of bounds says. -/
def relates : Comparator → Int → Int → Bool
  | ge, m, n => decide (n ≤ m)
  | gt, m, n => decide (n < m)
  | le, m, n => decide (m ≤ n)
  | lt, m, n => decide (m < n)
  | _, _, _ => false

/-- Whether two values are whole numbers that stand as a comparator of bounds says. -/
def bounds (comparator : Comparator) (value operand : Value) : Bool :=
  match value.whole?, operand.whole? with
  | some m, some n => comparator.relates m n
  | _, _ => false

/-- Whether one value is what a comparator looks for, given its operands. Comparators that match all
objects but some look for those. -/
def accepts (comparator : Comparator) (operands : List Value) (value : Value) : Bool :=
  match comparator with
  | present | absent => true
  | eq | contains | notContains | oneOf => operands.contains value
  | ne | noneOf => !operands.contains value
  | ge | gt | le | lt => operands.any (comparator.bounds value)
  | containsCaseSensitive => operands.any value.includes
  | _ => false

end Comparator

/-- The values that an object has under some names. -/
def GraphObject.valuesOf (object : GraphObject) (names : List String) : List Value :=
  names.flatMap fun name => ((object.get? name).map (·.values)).getD []

namespace Criterion

/-- Whether an object has what a criterion looks for. -/
def isFoundIn (object : GraphObject) : Criterion → Bool
  | property criterion =>
    (object.valuesOf criterion.names).any (criterion.comparator.accepts criterion.values)
  | type criterion => criterion.types.contains object.vitaltype == criterion.isInclusive

/-- Whether an object satisfies a criterion. Having no value satisfies nothing but a criterion that
matches all objects but some. -/
def isSatisfiedBy (object : GraphObject) (criterion : Criterion) : Bool :=
  criterion.isFoundIn object != criterion.isSetNegation

end Criterion

mutual

/-- Whether an object satisfies an element of a container. -/
def Element.isSatisfiedBy (object : GraphObject) : Element → Bool
  | .leaf criterion => criterion.isSatisfiedBy object
  | .nested .and elements => Element.allSatisfiedBy object elements
  | .nested .or elements => Element.someSatisfiedBy object elements

def Element.allSatisfiedBy (object : GraphObject) : List Element → Bool
  | [] => true
  | element :: rest => element.isSatisfiedBy object && Element.allSatisfiedBy object rest

def Element.someSatisfiedBy (object : GraphObject) : List Element → Bool
  | [] => false
  | element :: rest => element.isSatisfiedBy object || Element.someSatisfiedBy object rest

end

/-- Whether an object satisfies a container. -/
def Container.isSatisfiedBy (object : GraphObject) (container : Container) : Bool :=
  container.asElement.isSatisfiedBy object

end GraphSegments
