import GraphSegments.Double.Pair

/-!
Doubles of a database and their decimal texts, both ways by way of pairs of doubles. What is read
may be off by one in the last place; what is written has 15 significant digits at most.
-/

namespace GraphSegments.Numeral

/-- Digits are read until they come to this number. -/
def enough : Nat := (Nat.pow 2 64 - 10) / 10

/-- Digits below this number make room for a zero of the power of ten. -/
def roomy : Nat := (Nat.pow 2 64 - Nat.pow 2 11) / 10

/-- The shortest start of some digits that comes to `enough`, or all of them, and the power of
ten that goes with it. -/
def start (digits : Nat) (exponent : Int) : Nat × Int :=
  if enough ≤ digits / 10 then start (digits / 10) (exponent + 1) else (digits, exponent)
termination_by digits
decreasing_by
  rename_i long
  have : 0 < enough := by decide
  omega

/-- Takes zeros of a power of ten into the digits while there is room. -/
def fill (digits : Nat) : Nat → Nat × Nat
  | 0 => (digits, 0)
  | exponent + 1 =>
    if digits < roomy then fill (digits * 10) exponent else (digits, exponent + 1)

/-- Takes zeros at the end of the digits for a power of ten to divide by. -/
def reduce (digits : Nat) : Nat → Nat × Nat
  | 0 => (digits, 0)
  | exponent + 1 =>
    if digits % 10 = 0 then reduce (digits / 10) exponent else (digits, exponent + 1)

/-- The largest power of ten that makes a difference. -/
def largestPower : Nat := 20000

/-- A pair times a power of ten, in steps of hundreds, of tens and of ones. -/
def scale (pair : DoublePair) (negative : Bool) (exponent : Nat) : DoublePair :=
  let count := min exponent largestPower
  let power (size : Nat) : DoublePair := .powerOfTen (if negative then -size else size)
  ((pair.timesPower (power 100) (count / 100)).timesPower (power 10) (count % 100 / 10)).timesPower
    (power 1) (count % 10)

/-- The magnitude of `digits * 10 ^ exponent` for digits that are not all zeros. -/
def magnitude (digits : Nat) (exponent : Int) : Double :=
  let (digits, exponent) := start digits exponent
  let scaled :=
    if 0 ≤ exponent then
      let (digits, power) := fill digits exponent.toNat
      scale (.ofNat digits) false power
    else
      let (digits, power) := reduce digits (-exponent).toNat
      scale (.ofNat digits) true power
  if scaled.sum.isNan then .infinite false else scaled.sum

/-- The double that `digits * 10 ^ exponent` is read as. -/
def toDouble (negative : Bool) (digits : Nat) (exponent : Int) : Double :=
  let size := if digits = 0 then .zero else magnitude digits exponent
  if negative then size.negate else size

/-- The largest double below the largest number of 63 bits, times a power of ten. -/
def bound (exponent : Int) : Double :=
  .ofPattern (BinaryFormat.double.roundDecimal (Nat.pow 2 63 - Nat.pow 2 10) exponent)

/-- The most steps of one size that any number takes on its way between the bounds. -/
def mostSteps : Nat := 12

/-- Multiplies a pair by a power of ten while its high part is beyond a bound, and keeps count of
the power that the result has to be multiplied by. -/
def approach (beyond : Ordering) (limit : Double) (size : Int) :
    Nat → DoublePair × Int → DoublePair × Int
  | 0, scaled => scaled
  | steps + 1, (pair, exponent) =>
    if pair.high.compareValue limit = beyond then
      approach beyond limit size steps (pair.times (.powerOfTen (-size)), exponent + size)
    else (pair, exponent)

/-- A positive number as a number of 18 or 19 digits and a power of ten. -/
def expand (x : Double) : Nat × Int :=
  let (pair, exponent) :=
    if x.compareValue (bound 0) = .gt then
      approach .gt (bound 0) 1 mostSteps <| approach .gt (bound 10) 10 mostSteps <|
        approach .gt (bound 100) 100 mostSteps (⟨x, .zero⟩, 0)
    else
      approach .lt (bound (-1)) (-1) mostSteps <| approach .lt (bound (-11)) (-10) mostSteps <|
        approach .lt (bound (-101)) (-100) mostSteps (⟨x, .zero⟩, 0)
  (pair.truncate, exponent)

/-- How many significant digits are written. -/
def significantDigits : Nat := 15

/-- The significant digits of a positive number, a half rounded up, and the place of the first of
them. -/
def digits (x : Double) : List Char × Int :=
  let (expanded, exponent) := expand x
  let size := (Nat.toDigits 10 expanded).length
  let first := exponent + size - 1
  let rounded := (expanded / Nat.pow 10 (size - significantDigits - 1) + 5) / 10
  if rounded < Nat.pow 10 significantDigits then (Nat.toDigits 10 rounded, first)
  else (Nat.toDigits 10 (rounded / 10), first + 1)

/-- Drops the zeros at the end of digits, but leaves one digit. -/
def trimZeros (digits : List Char) : List Char :=
  match (digits.reverse.dropWhile (· = '0')).reverse with
  | [] => ['0']
  | trimmed => trimmed

/-- Digits from a place on, always with a point and a digit after it, and with an exponent below
`0.0001` and from `10 ^ 15`. -/
def write (digits : List Char) (first : Int) : List Char :=
  if first < -4 ∨ first ≥ significantDigits then
    let size := Nat.toDigits 10 first.natAbs
    digits.take 1 ++ '.' :: trimZeros (digits.drop 1) ++
      'e' :: (if first < 0 then '-' else '+') ::
      (if size.length < 2 then '0' :: size else size)
  else if first < 0 then
    '0' :: '.' :: trimZeros (List.replicate (-first - 1).toNat '0' ++ digits)
  else digits.take (first.toNat + 1) ++ '.' :: trimZeros (digits.drop (first.toNat + 1))

/-- The text of a double. -/
def text (x : Double) : String :=
  match x.parts with
  | .nan _ => ""
  | .infinite negative => if negative then "-Inf" else "Inf"
  | .finite negative significand _ =>
    if significand = 0 then "0.0"
    else
      let (found, first) := digits (if negative then x.negate else x)
      String.ofList (if negative then '-' :: write found first else write found first)

end GraphSegments.Numeral
