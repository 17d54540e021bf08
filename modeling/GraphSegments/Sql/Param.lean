import GraphSegments.Value

/-!
The parameters of statements: a type and, unless it is absent, a value.
-/

namespace GraphSegments

inductive Param where
  | bool (value : Option Bool)
  | i16 (value : Option Int)
  | i32 (value : Option Int)
  | i64 (value : Option Int)
  | u64 (value : Option Nat)
  | f32 (value : Option Single)
  | f64 (value : Option Double)
  | text (value : Option String)
  deriving DecidableEq, Repr, Inhabited

namespace Param

/-- A text that is there. -/
def ofText (value : String) : Param := text (some value)

/-- The parameter that carries a value. Points go as their text, truths as their code. -/
def ofValue : Value → Param
  | .boolean b => bool (some b)
  | .date n | .long n => i64 (some n.toInt)
  | .double x => f64 (some x)
  | .float x => f32 (some x)
  | .geolocation point => text (some point.text)
  | .integer n => i32 (some n.toInt)
  | .other s | .string s | .uri s => text (some s)
  | .truth t => i16 (some t.code)

/-- The absent value of the type that a kind has. -/
def absent : ValueKind → Param
  | .boolean => bool none
  | .date | .long => i64 none
  | .double => f64 none
  | .float => f32 none
  | .integer => i32 none
  | .truth => i16 none
  | .geolocation | .other | .string | .uri => text none

def typeName : Param → String
  | bool _ => "bool"
  | i16 _ => "i16"
  | i32 _ => "i32"
  | i64 _ => "i64"
  | u64 _ => "u64"
  | f32 _ => "f32"
  | f64 _ => "f64"
  | text _ => "text"

end Param

end GraphSegments
