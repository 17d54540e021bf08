import GraphSegments.Binary.Shortest
import GraphSegments.Binary.Literal

/-!
Doubles and floats as bit patterns, so that equality is decidable and tells `0` from `-0`.
Comparisons, conversions and operations are exact or rounded correctly.
-/

namespace GraphSegments

/-- A 64-bit floating-point number. -/
structure Double where
  bits : UInt64
  deriving DecidableEq, Repr, Inhabited

/-- A 32-bit floating-point number. -/
structure Single where
  bits : UInt32
  deriving DecidableEq, Repr, Inhabited

namespace Double

def ofPattern (pattern : Nat) : Double := ⟨UInt64.ofNat pattern⟩

def pattern (x : Double) : Nat := x.bits.toNat

def parts (x : Double) : BinaryParts := BinaryFormat.double.parts x.pattern

def zero : Double := ofPattern 0

def nan : Double := ofPattern BinaryFormat.double.quietNan

def infinite (negative : Bool) : Double :=
  ofPattern (BinaryFormat.double.signed negative BinaryFormat.double.infinity)

def text (x : Double) : String := BinaryFormat.double.text x.pattern

def ofText? (text : String) : Option Double :=
  (NumberText.ofChars? text.toList).map fun number =>
    ofPattern (number.round BinaryFormat.double)

/-- The nearest double of an integer. -/
def ofInt (n : Int) : Double :=
  ofPattern (BinaryFormat.double.signed (n < 0) (BinaryFormat.double.roundScaled n.natAbs 0))

def isNan (x : Double) : Bool :=
  match x.parts with
  | .nan _ => true
  | _ => false

def isFinite (x : Double) : Bool :=
  match x.parts with
  | .finite .. => true
  | _ => false

/-- The total order of bit patterns, with `-0` below `0` and NaNs at the ends. -/
def totalCompare (x y : Double) : Ordering :=
  compare (BinaryFormat.double.orderKey x.pattern) (BinaryFormat.double.orderKey y.pattern)

/-- The signed magnitude: it orders all doubles but the NaNs by value, and the zeros alike. -/
def valueKey (x : Double) : Int :=
  let magnitude := BinaryFormat.double.magnitude x.pattern
  if BinaryFormat.double.isNegative x.pattern then -(magnitude : Int) else magnitude

/-- Order by value of two doubles that are not NaNs. -/
def compareValue (x y : Double) : Ordering := compare x.valueKey y.valueKey

/-- Whether two doubles are equal as numbers: zeros alike, a NaN unlike everything. -/
def sameValue (x y : Double) : Bool :=
  !x.isNan && !y.isNan && x.valueKey == y.valueKey

/-- The value of a finite double in units of `2 ^ exponent`, for an exponent below its own. -/
def inUnits (negative : Bool) (significand : Nat) (exponent unit : Int) : Int :=
  let size : Int := significand * Nat.pow 2 (exponent - unit).toNat
  if negative then -size else size

/-- Order by value of an integer and a double that is not a NaN. -/
def compareInt (n : Int) (x : Double) : Ordering :=
  match x.parts with
  | .nan _ => .lt
  | .infinite negative => if negative then .gt else .lt
  | .finite negative significand exponent =>
    let unit := min 0 exponent
    compare (n * Nat.pow 2 (-unit).toNat) (inUnits negative significand exponent unit)

/-- The integer that a finite whole double stands for. -/
def toInt? (x : Double) : Option Int :=
  match x.parts with
  | .finite negative significand exponent =>
    let unit := min 0 exponent
    let scaled := inUnits negative significand exponent unit
    let scale := Nat.pow 2 (-unit).toNat
    if scaled % scale = 0 then some (scaled / scale) else none
  | _ => none

/-- The correctly rounded sum. Opposite infinities have none, and a sum of zeros keeps the sign
only when both have it. -/
def add (x y : Double) : Double :=
  match x.parts, y.parts with
  | .nan _, _ => nan
  | _, .nan _ => nan
  | .infinite a, .infinite b => if a = b then infinite a else nan
  | .infinite a, _ => infinite a
  | _, .infinite b => infinite b
  | .finite a significandX exponentX, .finite b significandY exponentY =>
    let unit := min exponentX exponentY
    let sum := inUnits a significandX exponentX unit + inUnits b significandY exponentY unit
    if sum = 0 then ofPattern (BinaryFormat.double.signed (a && b) 0)
    else ofPattern (BinaryFormat.double.signed (sum < 0)
      (BinaryFormat.double.roundScaled sum.natAbs unit))

def negate (x : Double) : Double :=
  let format := BinaryFormat.double
  .ofPattern (format.signed (!format.isNegative x.pattern) (format.magnitude x.pattern))

/-- The correctly rounded difference. -/
def subtract (x y : Double) : Double := x.add y.negate

/-- The correctly rounded product. A zero and an infinity have none. -/
def multiply (x y : Double) : Double :=
  match x.parts, y.parts with
  | .nan _, _ => nan
  | _, .nan _ => nan
  | .infinite a, .infinite b => infinite (a != b)
  | .infinite a, .finite b significand _ => if significand = 0 then nan else infinite (a != b)
  | .finite a significand _, .infinite b => if significand = 0 then nan else infinite (a != b)
  | .finite a significandX exponentX, .finite b significandY exponentY =>
    ofPattern (BinaryFormat.double.signed (a != b)
      (BinaryFormat.double.roundScaled (significandX * significandY) (exponentX + exponentY)))

/-- The integer that is left of a double when its fraction is cut off. What is not finite leaves
none. -/
def truncate (x : Double) : Int :=
  match x.parts with
  | .finite negative significand exponent =>
    let size : Int := significand * Nat.pow 2 exponent.toNat / Nat.pow 2 (-exponent).toNat
    if negative then -size else size
  | _ => 0

/-- The correctly rounded quotient by a positive count. -/
def divCount (x : Double) (count : Nat) : Double :=
  match x.parts with
  | .nan _ => nan
  | .infinite negative => infinite negative
  | .finite negative significand exponent =>
    ofPattern (BinaryFormat.double.signed negative
      (BinaryFormat.double.roundQuotient (significand * Nat.pow 2 exponent.toNat)
        (count * Nat.pow 2 (-exponent).toNat)))

/-- The smaller of two numbers; a NaN gives way, and of two equal ones the first stays. -/
def minimum (x y : Double) : Double :=
  if x.isNan then y else if y.isNan then x
  else if y.valueKey < x.valueKey then y else x

/-- The larger of two numbers; a NaN gives way, and of two equal ones the first stays. -/
def maximum (x y : Double) : Double :=
  if x.isNan then y else if y.isNan then x
  else if x.valueKey < y.valueKey then y else x

/-- The nearest float. A NaN stays a NaN of the same sign. -/
def toSingle (x : Double) : Single :=
  let format := BinaryFormat.single
  ⟨UInt32.ofNat <|
    match x.parts with
    | .nan negative => format.signed negative format.quietNan
    | .infinite negative => format.signed negative format.infinity
    | .finite negative significand exponent =>
      format.signed negative (format.roundScaled significand exponent)⟩

end Double

namespace Single

def pattern (x : Single) : Nat := x.bits.toNat

def ofPattern (pattern : Nat) : Single := ⟨UInt32.ofNat pattern⟩

def parts (x : Single) : BinaryParts := BinaryFormat.single.parts x.pattern

def text (x : Single) : String := BinaryFormat.single.text x.pattern

def ofText? (text : String) : Option Single :=
  (NumberText.ofChars? text.toList).map fun number =>
    ofPattern (number.round BinaryFormat.single)

/-- The nearest float of an integer. -/
def ofInt (n : Int) : Single :=
  ofPattern (BinaryFormat.single.signed (n < 0) (BinaryFormat.single.roundScaled n.natAbs 0))

/-- The double of the same value. -/
def toDouble (x : Single) : Double :=
  let format := BinaryFormat.double
  .ofPattern <|
    match x.parts with
    | .nan negative => format.signed negative format.quietNan
    | .infinite negative => format.signed negative format.infinity
    | .finite negative significand exponent =>
      format.signed negative (format.roundScaled significand exponent)

end Single

end GraphSegments
