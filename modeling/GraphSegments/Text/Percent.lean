import GraphSegments.Text.Hexadecimal

/-!
Texts in which a percent sign with two hexadecimal digits stands for a byte.
-/

namespace GraphSegments.Text.Percent

/-- The percent sign. -/
def mark : UInt8 := 37

/-- The byte of two hexadecimal digits. -/
def byte? (high low : UInt8) : Option UInt8 := do
  let high ← hexDigit? (Char.ofNat high.toNat)
  let low ← hexDigit? (Char.ofNat low.toNat)
  return UInt8.ofNat (high * 16 + low)

/-- The bytes that a text stands for. A percent sign without two digits stands for itself. -/
def decodeBytes : List UInt8 → List UInt8
  | [] => []
  | [only] => [only]
  | [first, second] => [first, second]
  | first :: high :: low :: rest =>
    if first = mark then
      match byte? high low with
      | some byte => byte :: decodeBytes rest
      | none => first :: decodeBytes (high :: low :: rest)
    else first :: decodeBytes (high :: low :: rest)

/-- The text that a text stands for, if its bytes make up one. -/
def decode? (text : String) : Option String :=
  String.fromUTF8? ⟨(decodeBytes text.toUTF8.data.toList).toArray⟩

end GraphSegments.Text.Percent
