import GraphSegments.Comparator
import GraphSegments.Value

/-!
Criteria: what a query asks of objects. A container joins criteria and further containers with
AND or OR.
-/

namespace GraphSegments

/-- The operand of a criterion. -/
inductive Operand where
  | single (value : Value)
  | list (values : List Value)
  deriving DecidableEq, Repr, Inhabited

def Operand.values : Operand → List Value
  | single value => [value]
  | list values => values

/-- Compares the values of a property. -/
structure PropertyCriterion where
  property : String
  comparator : Comparator
  operand : Option Operand
  negated : Bool
  /-- Also compares the properties that descend from it. -/
  expand : Bool
  /-- The property and its descendants, once known; when empty, the property alone counts. -/
  expanded : List String
  deriving DecidableEq, Repr, Inhabited

namespace PropertyCriterion

/-- The operand's values; without an operand there are none. -/
def values (criterion : PropertyCriterion) : List Value :=
  (criterion.operand.map (·.values)).getD []

/-- The properties that the criterion compares. -/
def names (criterion : PropertyCriterion) : List String :=
  if criterion.expanded.isEmpty then [criterion.property] else criterion.expanded

end PropertyCriterion

/-- Compares the class of an object. -/
structure TypeCriterion where
  types : List String
  comparator : Comparator
  /-- Also compares the classes that descend from it. -/
  expand : Bool
  negated : Bool
  deriving DecidableEq, Repr, Inhabited

namespace TypeCriterion

def oneOf (types : List String) : TypeCriterion := ⟨types, .oneOf, false, false⟩

def noneOf (types : List String) : TypeCriterion := ⟨types, .noneOf, false, false⟩

/-- Whether the criterion admits its types rather than excluding them. -/
def isInclusive (criterion : TypeCriterion) : Bool :=
  criterion.comparator == .eq || criterion.comparator == .oneOf

end TypeCriterion

inductive Criterion where
  | property (criterion : PropertyCriterion)
  | type (criterion : TypeCriterion)
  deriving DecidableEq, Repr, Inhabited

namespace Criterion

def comparator : Criterion → Comparator
  | property criterion => criterion.comparator
  | type criterion => criterion.comparator

def isNegated : Criterion → Bool
  | property criterion => criterion.negated
  | type criterion => criterion.negated

/-- Whether the criterion matches all objects but those of its positive form. -/
def isSetNegation : Criterion → Bool
  | property criterion => criterion.comparator.isSetNegation
  | type _ => false

end Criterion

/-- How a container joins its elements. -/
inductive Connective where
  | and | or
  deriving DecidableEq, Repr, Inhabited

/-- An element of a container. -/
inductive Element where
  | leaf (criterion : Criterion)
  | nested (connective : Connective) (elements : List Element)
  deriving Repr, Inhabited

/-- Criteria joined by AND or OR. -/
structure Container where
  connective : Connective
  elements : List Element
  deriving Repr, Inhabited

namespace Container

/-- The container as an element of another. -/
def asElement (container : Container) : Element :=
  .nested container.connective container.elements

/-- The criteria directly in a container. -/
def criteria (container : Container) : List Criterion :=
  container.elements.filterMap fun
    | .leaf criterion => some criterion
    | .nested .. => none

end Container

end GraphSegments
