import GraphSegments.Double

/-!
The values of graph objects: eleven kinds, each with its own contents, and the two ways a property
holds them.
-/

namespace GraphSegments

/-- The kinds of values, in the order in which the value columns of a row are read. -/
inductive ValueKind where
  | boolean | date | double | float | geolocation | integer | long | other | string | truth | uri
  deriving DecidableEq, Repr, Inhabited

namespace ValueKind

/-- All kinds in reading order. -/
def all : List ValueKind :=
  [boolean, date, double, float, geolocation, integer, long, other, string, truth, uri]

theorem mem_all (kind : ValueKind) : kind ∈ all := by cases kind <;> decide

def name : ValueKind → String
  | boolean => "boolean"
  | date => "date"
  | double => "double"
  | float => "float"
  | geolocation => "geolocation"
  | integer => "integer"
  | long => "long"
  | other => "other"
  | string => "string"
  | truth => "truth"
  | uri => "uri"

def ofName? (name : String) : Option ValueKind := all.find? (·.name == name)

/-- Kinds whose values have a magnitude. -/
def isNumeric : ValueKind → Bool
  | date | double | float | integer | long => true
  | _ => false

/-- The place of a kind in the order of values. The four number kinds share one. -/
def rank : ValueKind → Nat
  | boolean => 0
  | date => 1
  | double | float | integer | long => 2
  | geolocation => 3
  | other => 4
  | string => 5
  | truth => 6
  | uri => 7

end ValueKind

/-- Four-valued truth. -/
inductive Truth where
  | no | yes | unknown | mu
  deriving DecidableEq, Repr, Inhabited

namespace Truth

def all : List Truth := [no, yes, unknown, mu]

/-- The number under which a truth is stored. -/
def code : Truth → Nat
  | no => 0
  | yes => 1
  | unknown => 2
  | mu => 3

def ofCode? (code : Int) : Option Truth := all.find? fun truth => (truth.code : Int) == code

theorem ofCode?_code (truth : Truth) : ofCode? truth.code = some truth := by
  cases truth <;> decide

end Truth

/-- A point on the globe. -/
structure GeoLocation where
  latitude : Double
  longitude : Double
  deriving DecidableEq, Repr, Inhabited

/-- The well-known text of a point, longitude first. -/
def GeoLocation.text (point : GeoLocation) : String :=
  "POINT(" ++ point.longitude.text ++ " " ++ point.latitude.text ++ ")"

/-- One value. Dates are milliseconds since the epoch. -/
inductive Value where
  | boolean (truth : Bool)
  | date (millis : Int64)
  | double (number : Double)
  | float (number : Single)
  | geolocation (point : GeoLocation)
  | integer (number : Int32)
  | long (number : Int64)
  | other (text : String)
  | string (text : String)
  | truth (truth : Truth)
  | uri (text : String)
  deriving DecidableEq, Repr, Inhabited

namespace Value

def kind : Value → ValueKind
  | boolean _ => .boolean
  | date _ => .date
  | double _ => .double
  | float _ => .float
  | geolocation _ => .geolocation
  | integer _ => .integer
  | long _ => .long
  | other _ => .other
  | string _ => .string
  | truth _ => .truth
  | uri _ => .uri

/-- The number that aggregation sees. Dates count as their milliseconds. -/
def number? : Value → Option Double
  | date n | long n => some (Double.ofInt n.toInt)
  | double x => some x
  | float x => some x.toDouble
  | integer n => some (Double.ofInt n.toInt)
  | _ => none

/-- The text of the three kinds that are texts. -/
def text? : Value → Option String
  | other s | string s | uri s => some s
  | _ => none

/-- The value as a timestamp, for the two kinds of 64 bits. -/
def instant? : Value → Option Int64
  | date n | long n => some n
  | _ => none

/-- The order of values: by rank of their kinds, then by contents. Numbers of different kinds
compare as doubles, in the total order of doubles. -/
def order (a b : Value) : Ordering :=
  match compare a.kind.rank b.kind.rank with
  | .eq =>
    match a, b with
    | boolean x, boolean y => compare x.toNat y.toNat
    | date x, date y => compare x.toInt y.toInt
    | geolocation x, geolocation y =>
      (x.latitude.totalCompare y.latitude).then (x.longitude.totalCompare y.longitude)
    | truth x, truth y => compare x.code y.code
    | other x, other y | string x, string y | uri x, uri y => compare x y
    | _, _ =>
      match a.number?, b.number? with
      | some x, some y => x.totalCompare y
      | _, _ => .eq
  | ordering => ordering

/-- Equality of values as numbers and texts: zeros are alike and a NaN equals nothing. -/
def same : Value → Value → Bool
  | double x, double y => x.sameValue y
  | float x, float y => x.toDouble.sameValue y.toDouble
  | geolocation x, geolocation y =>
    x.latitude.sameValue y.latitude && x.longitude.sameValue y.longitude
  | a, b => a == b

/-- Adds a value to a list in ascending order unless an equal one is there already. -/
def insertOrdered (value : Value) : List Value → List Value
  | [] => [value]
  | first :: rest =>
    match value.order first with
    | .lt => value :: first :: rest
    | .eq => first :: rest
    | .gt => first :: insertOrdered value rest

/-- The different values of a list in ascending order; of equal ones the last stays. -/
def distinct (values : List Value) : List Value := values.foldr insertOrdered []

end Value

/-- What a property holds: one value, or a list of them. -/
inductive PropertyValue where
  | single (value : Value)
  | multi (values : List Value)
  deriving DecidableEq, Repr, Inhabited

namespace PropertyValue

def values : PropertyValue → List Value
  | single value => [value]
  | multi values => values

def isMulti : PropertyValue → Bool
  | single _ => false
  | multi _ => true

def first? (held : PropertyValue) : Option Value := held.values.head?

/-- Equality in the sense of `Value.same`. -/
def same : PropertyValue → PropertyValue → Bool
  | single a, single b => a.same b
  | multi as, multi bs => as.length == bs.length && (as.zip bs).all fun (a, b) => a.same b
  | _, _ => false

end PropertyValue

end GraphSegments
