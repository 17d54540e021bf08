import GraphSegments.Json
import GraphSegments.Text.Cut

/-!
The numbers of JSON texts. Integers stay integers as far as 64 bits hold them. All other numbers
become doubles in two rounded steps, first the digits that 64 bits hold and then the power of ten,
so the last place can be off by one.
-/

namespace GraphSegments.Json

/-- The largest number of 64 bits. -/
def largest : Nat := Nat.pow 2 64 - 1

/-- Digits read into a number as long as 64 bits hold it; once a digit does not fit, it and the
ones behind it are only counted. -/
def digitsInto (significand : Nat) : List Char → Nat × Nat
  | [] => (significand, 0)
  | digit :: rest =>
    let next := 10 * significand + NumberText.digitValue digit
    if next ≤ largest then digitsInto next rest else (significand, rest.length + 1)

/-- The product of two magnitudes of finite doubles, rounded. -/
def product (a b : Nat) : Nat :=
  match BinaryFormat.double.parts a, BinaryFormat.double.parts b with
  | .finite _ m e, .finite _ n f => BinaryFormat.double.roundScaled (m * n) (e + f)
  | _, _ => BinaryFormat.double.infinity

/-- The quotient of two magnitudes of finite doubles, rounded. -/
def quotient (a b : Nat) : Nat :=
  match BinaryFormat.double.parts a, BinaryFormat.double.parts b with
  | .finite _ m e, .finite _ n f =>
    let exponent := e - f
    BinaryFormat.double.roundQuotient (m * Nat.pow 2 exponent.toNat)
      (n * Nat.pow 2 (-exponent).toNat)
  | _, _ => BinaryFormat.double.infinity

/-- The magnitude of a power of ten. -/
def powerOfTen (exponent : Nat) : Nat := BinaryFormat.double.roundDecimal 1 exponent

/-- The largest exponent whose power of ten is finite. -/
def largestPower : Nat := 308

/-- Divides a magnitude by a power of ten, in steps that are finite. After three steps nothing is
left of any number of 64 bits. -/
def scaleDown : Nat → Nat → Nat → Nat
  | 0, _, _ => 0
  | steps + 1, magnitude, exponent =>
    if exponent ≤ largestPower then quotient magnitude (powerOfTen exponent)
    else if magnitude = 0 then 0
    else scaleDown steps (quotient magnitude (powerOfTen largestPower)) (exponent - largestPower)

/-- The magnitude of a number of 64 bits times a power of ten, unless it is too large. -/
def scaled? (significand : Nat) (exponent : Int) : Option Nat :=
  let magnitude := BinaryFormat.double.roundScaled significand 0
  if exponent < 0 then some (scaleDown 4 magnitude (-exponent).toNat)
  else if exponent.toNat ≤ largestPower then
    let raised := product magnitude (powerOfTen exponent.toNat)
    if raised = BinaryFormat.double.infinity then none else some raised
  else if significand = 0 then some 0
  else none

/-- A double out of its parts. A number too large for one is void. -/
def realOf (negative : Bool) (significand : Nat) (exponent : Int) : Json :=
  match scaled? significand exponent with
  | some magnitude => real (.ofPattern (BinaryFormat.double.signed negative magnitude))
  | none => void

/-- A number without point and exponent: an integer if 64 bits hold it, with or without sign. -/
def wholeNumber (negative : Bool) (digits : List Char) : Json :=
  let (significand, dropped) := digitsInto 0 digits
  if dropped > 0 then realOf negative significand dropped
  else if !negative then int significand
  else if 0 < significand ∧ significand ≤ Nat.pow 2 63 then int (-significand)
  else realOf negative significand 0

/-- The exponent behind the mark `e`, with what follows it. -/
def exponentAfter? (chars : List Char) : Option (Int × List Char) :=
  let (negative, rest) := NumberText.splitSign chars
  let (digits, rest) := NumberText.spanDigits rest
  if digits.isEmpty then none
  else
    let size : Int := NumberText.ofDigits digits
    some (if negative then -size else size, rest)

/-- The digits behind a point, with what follows them. -/
def fractionAfter? (chars : List Char) : Option (List Char × List Char) :=
  let (digits, rest) := NumberText.spanDigits chars
  if digits.isEmpty then none else some (digits, rest)

/-- Reads the digits of a number behind its sign, with what follows them. -/
def numberAfter? (negative : Bool) (chars : List Char) : Option (Json × List Char) := do
  let (whole, rest) := NumberText.spanDigits chars
  let wellFormed :=
    match whole with
    | [] => false
    | '0' :: more => more.isEmpty
    | _ => true
  if !wellFormed then none
  else
    let (fraction, rest) ←
      match rest with
      | '.' :: rest => fractionAfter? rest
      | rest => some ([], rest)
    let (exponent, rest) ←
      match rest with
      | 'e' :: rest | 'E' :: rest => do
        let (exponent, rest) ← exponentAfter? rest
        some (some exponent, rest)
      | rest => some (none, rest)
    if fraction.isEmpty ∧ exponent.isNone then
      return (wholeNumber negative whole, rest)
    else
      let (significand, dropped) := digitsInto 0 whole
      let (significand, unused) := digitsInto significand fraction
      let shift : Int := dropped - (fraction.length - unused : Nat)
      return (realOf negative significand (shift + exponent.getD 0), rest)

end GraphSegments.Json
