import GraphSegments.Binary

/-!
Reading decimal number texts: an optional sign, digits with an optional point on either side of
which digits may be missing (not on both), and an optional exponent; or an infinity or NaN in
any case.
-/

namespace GraphSegments

/-- What a number text says before it is rounded to a format. -/
inductive NumberText where
  | nan (negative : Bool)
  | infinite (negative : Bool)
  | decimal (negative : Bool) (digits : Nat) (exponent : Int)
  deriving DecidableEq, Repr

namespace NumberText

/-- The value of an ASCII digit. -/
def digitValue (c : Char) : Nat := c.toNat - 48

/-- The number written by a run of ASCII digits. -/
def ofDigits (digits : List Char) : Nat :=
  digits.foldl (fun value c => 10 * value + digitValue c) 0

/-- Splits off the longest run of leading ASCII digits. -/
def spanDigits (chars : List Char) : List Char × List Char :=
  (chars.takeWhile Char.isDigit, chars.dropWhile Char.isDigit)

/-- Splits off a sign; without one the number is not negative. -/
def splitSign : List Char → Bool × List Char
  | '-' :: rest => (true, rest)
  | '+' :: rest => (false, rest)
  | chars => (false, chars)

/-- The exponent that ends a number text: nothing, or `e` with a signed run of digits. -/
def exponent? : List Char → Option Int
  | [] => some 0
  | mark :: rest =>
    let (negative, digits) := splitSign rest
    if (mark = 'e' ∨ mark = 'E') ∧ digits ≠ [] ∧ digits.all Char.isDigit then
      some (if negative then -(ofDigits digits : Int) else ofDigits digits)
    else none

/-- An unsigned number: whole digits, then a point with more digits, then the exponent. -/
def unsigned? (negative : Bool) (chars : List Char) : Option NumberText :=
  let (whole, rest) := spanDigits chars
  let (fraction, rest) :=
    match rest with
    | '.' :: rest => spanDigits rest
    | rest => ([], rest)
  if whole = [] ∧ fraction = [] then none
  else (exponent? rest).map fun exponent =>
    .decimal negative (ofDigits (whole ++ fraction)) (exponent - fraction.length)

/-- Reads a whole text as a number. -/
def ofChars? (chars : List Char) : Option NumberText :=
  let (negative, rest) := splitSign chars
  let word := String.ofList (rest.map Char.toLower)
  if word = "nan" then some (.nan negative)
  else if word = "inf" ∨ word = "infinity" then some (.infinite negative)
  else unsigned? negative rest

/-- The pattern of a format nearest to what the text says. -/
def round (format : BinaryFormat) : NumberText → Nat
  | .nan negative => format.signed negative format.quietNan
  | .infinite negative => format.signed negative format.infinity
  | .decimal negative digits exponent =>
    format.signed negative (format.roundDecimal digits exponent)

end NumberText

end GraphSegments
