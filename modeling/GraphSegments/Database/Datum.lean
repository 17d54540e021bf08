import GraphSegments.Database.Numeral
import GraphSegments.Sql.Condition
import GraphSegments.Text.Case
import GraphSegments.Text.Cut
import GraphSegments.Binary.Literal

/-!
What a column of a table holds, and how it compares with parameters. Columns have an affinity that
turns numbers into texts or texts into numbers, both when a column is set and when it is compared.
-/

namespace GraphSegments

/-- The contents of one column of one row. -/
inductive Datum where
  | null
  | int (value : Int)
  | real (value : Double)
  | text (value : String)
  deriving DecidableEq, Repr, Inhabited

/-- What a column prefers to hold. -/
inductive Affinity where
  | text
  /-- Numbers, whole ones as integers. -/
  | numeric
  /-- Numbers, all of them as doubles. -/
  | real
  deriving DecidableEq, Repr, Inhabited

/-- The affinity that the type of a column gives it. -/
def Column.affinity : Column → Affinity
  | .external | .tstamp => .numeric
  | .value kind _ =>
    match kind with
    | .boolean | .date | .integer | .long | .truth => .numeric
    | .double | .float => .real
    | .geolocation | .other | .string | .uri => .text
  | _ => .text

namespace Datum

/-- What a parameter brings along. A NaN is no number, so it is nothing. -/
def ofParam : Param → Datum
  | .bool (some b) => int (if b then 1 else 0)
  | .i16 (some n) | .i32 (some n) | .i64 (some n) => int n
  | .u64 (some n) => int n
  | .f32 (some x) => if x.toDouble.isNan then null else real x.toDouble
  | .f64 (some x) => if x.isNan then null else real x
  | .text (some s) => text s
  | _ => null

/-- White space around a number in a text. -/
def isSpace (c : Char) : Bool := c.toNat = 32 || (9 ≤ c.toNat && c.toNat ≤ 13)

/-- Whether a number text is written in digits, with one before or after the point. -/
def startsNumber : List Char → Bool
  | '-' :: rest | '+' :: rest | rest =>
    match rest with
    | '.' :: c :: _ => c.isDigit
    | c :: _ => c.isDigit
    | [] => false

/-- The number that a whole text is, if it is one. -/
def ofNumberText? (value : String) : Option Datum :=
  let chars := ((value.toList.dropWhile isSpace).reverse.dropWhile isSpace).reverse
  let (negative, digits) := NumberText.splitSign chars
  if digits.isEmpty then none
  else if digits.all Char.isDigit then
    let size : Int := NumberText.ofDigits digits
    let number := if negative then -size else size
    if -Nat.pow 2 63 ≤ number ∧ number < Nat.pow 2 63 then some (int number)
    else some (real (Numeral.toDouble negative (NumberText.ofDigits digits) 0))
  else if startsNumber chars then
    match NumberText.unsigned? negative digits with
    | some (.decimal negative digits exponent) =>
      some (real (Numeral.toDouble negative digits exponent))
    | _ => none
  else none

/-- The largest magnitude below which a whole double becomes an integer. -/
def wholeLimit : Int := Nat.pow 2 63

/-- A whole double as an integer, where an integer can hold it. -/
def asWhole : Datum → Datum
  | real x =>
    match x.toInt? with
    | some n => if -wholeLimit < n ∧ n < wholeLimit - 1 then int n else real x
    | none => real x
  | datum => datum

/-- A number as a double, as a column of doubles keeps it: a whole one is an integer on the way, so
a zero has no sign. -/
def asReal (datum : Datum) : Datum :=
  let number :=
    match datum with
    | text s => (ofNumberText? s).getD datum
    | _ => datum
  match asWhole number with
  | int n => real (Double.ofInt n)
  | other => other

/-- What a column of an affinity makes of a datum. -/
def store : Affinity → Datum → Datum
  | .text, int n => text (toString n)
  | .text, real x => text (Numeral.text x)
  | .numeric, text s => ((ofNumberText? s).map asWhole).getD (text s)
  | .numeric, real x => asWhole (real x)
  | .real, datum => asReal datum
  | _, datum => datum

/-- What a comparison with a column of an affinity makes of a parameter. -/
def operand : Affinity → Datum → Datum
  | .text, int n => text (toString n)
  | .text, real x => text (Numeral.text x)
  | .numeric, text s | .real, text s => (ofNumberText? s).getD (text s)
  | _, datum => datum

/-- The order of two data: numbers by value, every text after every number, texts by character.
Nothing compares with nothing. -/
def order : Datum → Datum → Option Ordering
  | null, _ | _, null => none
  | int m, int n => some (compare m n)
  | int m, real y => some (Double.compareInt m y)
  | real x, int n => some (Double.compareInt n x).swap
  | real x, real y => some (x.compareValue y)
  | text s, text t => some (compare s t)
  | text _, _ => some .gt
  | _, text _ => some .lt

/-- Whether two data compare, and compare alike. -/
def equals (a b : Datum) : Bool := a.order b == some .eq

/-- The text of a datum, unless there is none. -/
def text? : Datum → Option String
  | null => none
  | int n => some (toString n)
  | real x => some (Numeral.text x)
  | text s => some s

end Datum

end GraphSegments
