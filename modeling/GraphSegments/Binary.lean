/-!
Binary floating-point formats, read and rounded exactly.

A bit pattern is either a NaN, an infinity or `significand * 2 ^ exponent` with a sign, and
`roundQuotient` turns any quotient of natural numbers into the nearest pattern of a format, a
half going to the even significand. All arithmetic of the library on doubles and floats goes
through these two functions, so none of it depends on the machine's own operations.
-/

namespace GraphSegments

/-- A binary format with `precision` significand bits, the leading one included. -/
structure BinaryFormat where
  precision : Nat
  exponentBits : Nat
  deriving DecidableEq, Repr

/-- What a bit pattern stands for. -/
inductive BinaryParts where
  | nan (negative : Bool)
  | infinite (negative : Bool)
  | finite (negative : Bool) (significand : Nat) (exponent : Int)
  deriving DecidableEq, Repr

namespace BinaryFormat

/-- The 64-bit format of doubles. -/
def double : BinaryFormat := ⟨53, 11⟩

/-- The 32-bit format of floats. -/
def single : BinaryFormat := ⟨24, 8⟩

/-- The exponent of the last place of the smallest numbers. -/
def minExponent (format : BinaryFormat) : Int :=
  3 - Nat.pow 2 (format.exponentBits - 1) - format.precision

/-- The step between two exponents in a bit pattern. -/
def exponentStep (format : BinaryFormat) : Nat := Nat.pow 2 (format.precision - 1)

/-- The pattern of positive infinity; every larger magnitude is a NaN. -/
def infinity (format : BinaryFormat) : Nat :=
  (Nat.pow 2 format.exponentBits - 1) * format.exponentStep

/-- The pattern of the sign alone. -/
def signPattern (format : BinaryFormat) : Nat :=
  Nat.pow 2 (format.exponentBits + format.precision - 1)

/-- The pattern of the quiet NaN without a payload. -/
def quietNan (format : BinaryFormat) : Nat :=
  format.infinity + format.exponentStep / 2

def isNegative (format : BinaryFormat) (pattern : Nat) : Bool :=
  format.signPattern ≤ pattern

/-- The pattern without its sign. Magnitudes compare as the numbers they stand for. -/
def magnitude (format : BinaryFormat) (pattern : Nat) : Nat :=
  pattern % format.signPattern

/-- Puts a sign on a magnitude. -/
def signed (format : BinaryFormat) (negative : Bool) (magnitude : Nat) : Nat :=
  if negative then format.signPattern + magnitude else magnitude

/-- The meaning of a pattern. Subnormals have the exponent field 0 and no leading one. -/
def parts (format : BinaryFormat) (pattern : Nat) : BinaryParts :=
  let negative := format.isNegative pattern
  let magnitude := format.magnitude pattern
  if magnitude > format.infinity then .nan negative
  else if magnitude = format.infinity then .infinite negative
  else
    let field := magnitude / format.exponentStep
    let fraction := magnitude % format.exponentStep
    if field = 0 then .finite negative fraction format.minExponent
    else .finite negative (format.exponentStep + fraction) (format.minExponent + field - 1)

/-- Whether `numerator / denominator` is below `2 ^ exponent`. -/
def quotientBelow (numerator denominator : Nat) (exponent : Int) : Bool :=
  numerator * Nat.pow 2 (-exponent).toNat < denominator * Nat.pow 2 exponent.toNat

/-- The exponent of the leading bit of a positive quotient. -/
def leadingExponent (numerator denominator : Nat) : Int :=
  let estimate : Int := (numerator.log2 : Int) - denominator.log2
  if quotientBelow numerator denominator estimate then estimate - 1 else estimate

/-- The quotient rounded to a natural number, a half going to the even neighbour. -/
def roundHalfEven (numerator denominator : Nat) : Nat :=
  let below := numerator / denominator
  let doubled := 2 * (numerator % denominator)
  if doubled > denominator ∨ (doubled = denominator ∧ below % 2 = 1) then below + 1 else below

/-- The magnitude nearest to `numerator / denominator`. A significand that rounds up to the
next power of two carries into the exponent, and what passes the largest number is infinite. -/
def roundQuotient (format : BinaryFormat) (numerator denominator : Nat) : Nat :=
  if numerator = 0 ∨ denominator = 0 then 0
  else
    let exponent := max format.minExponent
      (leadingExponent numerator denominator + 1 - format.precision)
    let rounded := roundHalfEven (numerator * Nat.pow 2 (-exponent).toNat)
      (denominator * Nat.pow 2 exponent.toNat)
    min format.infinity
      (rounded + (exponent - format.minExponent).toNat * format.exponentStep)

/-- The magnitude nearest to `significand * 2 ^ exponent`. -/
def roundScaled (format : BinaryFormat) (significand : Nat) (exponent : Int) : Nat :=
  format.roundQuotient (significand * Nat.pow 2 exponent.toNat)
    (Nat.pow 2 (-exponent).toNat)

/-- The magnitude nearest to `digits * 10 ^ exponent`. Quotients far outside the range of any
format are settled by their size alone. -/
def roundDecimal (format : BinaryFormat) (digits : Nat) (exponent : Int) : Nat :=
  if digits = 0 then 0
  else
    let size := (digits.log2 * 30103 / 100000 : Nat) + exponent
    if size > 400 then format.infinity
    else if size < -400 then 0
    else format.roundQuotient (digits * Nat.pow 10 exponent.toNat) (Nat.pow 10 (-exponent).toNat)

/-- A key whose integer order is the total order of patterns: negative NaNs first, then the
numbers with `-0` below `0`, then positive NaNs. -/
def orderKey (format : BinaryFormat) (pattern : Nat) : Int :=
  if format.isNegative pattern then -(format.magnitude pattern : Int) - 1
  else format.magnitude pattern

theorem parts_zero_double : double.parts 0 = .finite false 0 (-1074) := by decide

theorem infinity_double : double.infinity = 0x7ff0000000000000 := by decide

end BinaryFormat

end GraphSegments
