/-!
The comparators of criteria and their complements.
-/

namespace GraphSegments

/-- How a criterion compares a property, or a type, with its operand. -/
inductive Comparator where
  | eq | ne | ge | gt | le | lt
  | present | absent
  | contains | containsCaseInsensitive | containsCaseSensitive | notContains
  | eqCaseInsensitive | regexp | regexpCaseSensitive
  | oneOf | noneOf
  deriving DecidableEq, Repr, Inhabited

namespace Comparator

def all : List Comparator :=
  [eq, ne, ge, gt, le, lt, present, absent, contains, containsCaseInsensitive,
    containsCaseSensitive, notContains, eqCaseInsensitive, regexp, regexpCaseSensitive, oneOf,
    noneOf]

theorem mem_all (comparator : Comparator) : comparator ∈ all := by cases comparator <;> decide

def name : Comparator → String
  | eq => "EQ"
  | ne => "NE"
  | ge => "GE"
  | gt => "GT"
  | le => "LE"
  | lt => "LT"
  | present => "EXISTS"
  | absent => "NOT_EXISTS"
  | contains => "CONTAINS"
  | containsCaseInsensitive => "CONTAINS_CASE_INSENSITIVE"
  | containsCaseSensitive => "CONTAINS_CASE_SENSITIVE"
  | notContains => "NOT_CONTAINS"
  | eqCaseInsensitive => "EQ_CASE_INSENSITIVE"
  | regexp => "REGEXP"
  | regexpCaseSensitive => "REGEXP_CASE_SENSITIVE"
  | oneOf => "ONE_OF"
  | noneOf => "NONE_OF"

def ofName? (name : String) : Option Comparator := all.find? (·.name == name)

/-- The logical complement, for the comparators that have one. -/
def negated? : Comparator → Option Comparator
  | eq => some ne
  | ne => some eq
  | ge => some lt
  | lt => some ge
  | gt => some le
  | le => some gt
  | contains => some notContains
  | notContains => some contains
  | present => some absent
  | absent => some present
  | _ => none

theorem negated?_negated? {comparator complement : Comparator}
    (negation : comparator.negated? = some complement) :
    complement.negated? = some comparator := by
  cases comparator <;> simp [negated?] at negation <;> subst negation <;> rfl

/-- Comparators that match all objects but those of the positive form. -/
def isSetNegation : Comparator → Bool
  | notContains | absent => true
  | _ => false

/-- Comparators for which finding no row of the property proves nothing. -/
def isExclusive : Comparator → Bool
  | ne | noneOf | notContains | absent => true
  | _ => false

def takesValue : Comparator → Bool
  | present | absent => false
  | _ => true

/-- Comparators of type criteria, and of channel filters. -/
def isMembership : Comparator → Bool
  | eq | ne | oneOf | noneOf => true
  | _ => false

/-- Comparators whose operand is a list. -/
def takesList : Comparator → Bool
  | oneOf | noneOf => true
  | _ => false

end Comparator

end GraphSegments
