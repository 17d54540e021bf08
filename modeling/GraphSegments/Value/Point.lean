import GraphSegments.Error
import GraphSegments.Text.Blank
import GraphSegments.Text.Cut
import GraphSegments.Value

/-!
Reading the well-known text of a point.
-/

namespace GraphSegments.GeoLocation

/-- The two coordinates between `POINT(` and the closing parenthesis, as texts. -/
def coordinates? (raw : String) : Option (List Char × List Char) := do
  let inner ← Text.strip? "POINT(".toList (Text.trim raw.toList)
  match inner.reverse with
  | ')' :: reversed =>
    match Text.words reversed.reverse with
    | [longitude, latitude] => some (longitude, latitude)
    | _ => none
  | _ => none

/-- One coordinate. -/
def coordinate (chars : List Char) : Except Error Double :=
  match Double.ofText? (String.ofList chars) with
  | some number => .ok number
  | none => .error (.integrity .noPointNumber)

/-- Reads a point; white space around the text and between the coordinates does not count. The
latitude is read before the longitude. -/
def read (raw : String) : Except Error GeoLocation :=
  match coordinates? raw with
  | none => .error (.integrity (.noPoint raw))
  | some (longitude, latitude) => do
    let latitude ← coordinate latitude
    let longitude ← coordinate longitude
    return ⟨latitude, longitude⟩

end GraphSegments.GeoLocation
