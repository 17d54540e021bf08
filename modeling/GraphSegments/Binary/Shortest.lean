import GraphSegments.Binary

/-!
The decimal text of a binary number: the fewest digits that read back to the same number, and
of those the nearest to it, written without an exponent.
-/

namespace GraphSegments.BinaryFormat

/-- The reals that round to one finite number, as numerators over a common denominator. The ends
belong to it when the significand is even. -/
structure RoundingInterval where
  low : Nat
  centre : Nat
  high : Nat
  denominator : Nat
  closed : Bool

/-- The interval of `significand * 2 ^ exponent`. Just above a power of two the lower neighbour
is twice as near. -/
def roundingInterval (format : BinaryFormat) (significand : Nat) (exponent : Int) :
    RoundingInterval :=
  let narrow := significand = format.exponentStep ∧ exponent > format.minExponent
  let scale := Nat.pow 2 (exponent - 2).toNat
  { low := (4 * significand - if narrow then 1 else 2) * scale
    centre := 4 * significand * scale
    high := (4 * significand + 2) * scale
    denominator := Nat.pow 2 (2 - exponent).toNat
    closed := significand % 2 = 0 }

namespace RoundingInterval

/-- Whether `digits * 10 ^ place` lies in the interval. -/
def contains (interval : RoundingInterval) (digits : Nat) (place : Int) : Bool :=
  let point := digits * Nat.pow 10 place.toNat * interval.denominator
  let low := interval.low * Nat.pow 10 (-place).toNat
  let high := interval.high * Nat.pow 10 (-place).toNat
  digits ≠ 0 ∧ (low < point ∧ point < high ∨
    interval.closed ∧ (low = point ∨ point = high))

/-- The grid point of a place that lies in the interval, the nearer one if both neighbours of
the centre do. -/
def gridPoint? (interval : RoundingInterval) (place : Int) : Option Nat :=
  let unit := Nat.pow 10 place.toNat * interval.denominator
  let centre := interval.centre * Nat.pow 10 (-place).toNat
  let below := centre / unit
  match interval.contains below place, interval.contains (below + 1) place with
  | true, true => some (if 2 * (centre % unit) < unit then below else below + 1)
  | true, false => some below
  | false, true => some (below + 1)
  | false, false => none

/-- Tries coarser grids before finer ones. -/
def coarsest (interval : RoundingInterval) : Nat → Int → Nat × Int
  | 0, place => (interval.centre * Nat.pow 10 (-place).toNat / interval.denominator, place)
  | attempts + 1, place =>
    match interval.gridPoint? place with
    | some digits => (digits, place)
    | none => interval.coarsest attempts (place - 1)

end RoundingInterval

/-- The shortest digits of a positive number and the place of the last of them. The first grid
tried is coarser than the number itself, and a grid of one unit in the last place always has a
point in the interval, so 24 attempts are enough for both formats. -/
def shortestDigits (format : BinaryFormat) (significand : Nat) (exponent : Int) : Nat × Int :=
  let size := (significand.log2 + exponent) * 30103 / 100000
  (format.roundingInterval significand exponent).coarsest 24 (size + 2)

/-- Digits with the last one at `place`, written positionally: zeros stand in for missing
places on either side of the point, and a whole number has no point. -/
def positional (digits : List Char) (place : Int) : List Char :=
  if 0 ≤ place then digits ++ List.replicate place.toNat '0'
  else
    let fraction := (-place).toNat
    if fraction < digits.length then
      digits.take (digits.length - fraction) ++ '.' :: digits.drop (digits.length - fraction)
    else '0' :: '.' :: List.replicate (fraction - digits.length) '0' ++ digits

/-- The text of any pattern: shortest digits, the sign of zero kept, no exponent. -/
def text (format : BinaryFormat) (pattern : Nat) : String :=
  match format.parts pattern with
  | .nan _ => "NaN"
  | .infinite negative => if negative then "-inf" else "inf"
  | .finite negative significand exponent =>
    let digits :=
      if significand = 0 then ['0']
      else
        let (digits, place) := format.shortestDigits significand exponent
        positional (Nat.toDigits 10 digits) place
    String.ofList (if negative then '-' :: digits else digits)

end GraphSegments.BinaryFormat
