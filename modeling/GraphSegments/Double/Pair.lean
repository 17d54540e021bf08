import GraphSegments.Double

/-!
Numbers as sums of two doubles, of which the second holds what the first has no room for. A pair
times a pair is again one, about twice as precise as a double but not rounded correctly: every
operation in it rounds, and their order matters for the last place.
-/

namespace GraphSegments

/-- The sum of two doubles, the second one far smaller than the first. -/
structure DoublePair where
  high : Double
  low : Double
  deriving DecidableEq, Repr

namespace DoublePair

/-- A quotient: the nearest double, and the double nearest to the rest. -/
def ofQuotient (numerator denominator : Nat) : DoublePair :=
  let format := BinaryFormat.double
  let high := format.roundQuotient numerator denominator
  match format.parts high with
  | .finite _ significand exponent =>
    let scale : Nat := Nat.pow 2 (-exponent).toNat
    let rest : Int := numerator * scale - significand * Nat.pow 2 exponent.toNat * denominator
    ⟨.ofPattern high,
      .ofPattern (format.signed (rest < 0) (format.roundQuotient rest.natAbs (denominator * scale)))⟩
  | _ => ⟨.ofPattern high, .zero⟩

def powerOfTen (exponent : Int) : DoublePair :=
  ofQuotient (Nat.pow 10 exponent.toNat) (Nat.pow 10 (-exponent).toNat)

/-- A number of 64 bits. One whose nearest double is beyond them goes without its rest. -/
def ofNat (n : Nat) : DoublePair :=
  let pair := ofQuotient n 1
  if (Double.ofInt (Nat.pow 2 64)).valueKey ≤ pair.high.valueKey then ⟨pair.high, .zero⟩ else pair

/-- The number of low bits in a pattern that make up the lower half of a double. -/
def halfBits : Nat := 26

/-- The halves of a double: a part with so few bits that products of such parts are exact, and
what that leaves. -/
def halves (x : Double) : Double × Double :=
  let head := Double.ofPattern (x.pattern / Nat.pow 2 halfBits * Nat.pow 2 halfBits)
  (head, x.subtract head)

/-- The product of two pairs. The product of the low parts is too small to count. -/
def times (x y : DoublePair) : DoublePair :=
  let (headX, tailX) := halves x.high
  let (headY, tailY) := halves y.high
  let heads := headX.multiply headY
  let crossed := (headX.multiply tailY).add (tailX.multiply headY)
  let product := heads.add crossed
  let lost := ((heads.subtract product).add crossed).add (tailX.multiply tailY)
  let rest := ((x.high.multiply y.low).add (x.low.multiply y.high)).add lost
  let high := product.add rest
  ⟨high, (product.subtract high).add rest⟩

/-- The power of a pair, by multiplying one time after the other. -/
def timesPower (x y : DoublePair) (count : Nat) : DoublePair := Nat.repeat (·.times y) count x

/-- The double that a pair comes to. -/
def sum (x : DoublePair) : Double := x.high.add x.low

/-- The natural number that a positive pair comes to when both doubles are cut at the point. -/
def truncate (x : DoublePair) : Nat := (x.high.truncate + x.low.truncate).toNat

end DoublePair

end GraphSegments
