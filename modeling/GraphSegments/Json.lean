import GraphSegments.Double

/-!
JSON values, and their two written forms: on one line, and indented by two spaces.
-/

namespace GraphSegments

/-- A JSON value. Whole numbers written without point and exponent are integers. Objects keep the
order of their entries, and repeated names. What is well formed and stands for nothing is void:
numbers too large for a double, texts with half of a character that takes two escapes, and
objects with such a name. -/
inductive Json where
  | null
  | bool (value : Bool)
  | int (value : Int)
  | real (value : Double)
  | text (value : String)
  | list (items : List Json)
  | object (entries : List (String × Json))
  | void
  deriving Repr, Inhabited

namespace Json

/-- The quotation mark. -/
def mark : Char := Char.ofNat 34

/-- One character of a written text. -/
def writeChar (c : Char) : List Char :=
  match c.toNat with
  | 8 => ['\\', 'b']
  | 9 => ['\\', 't']
  | 10 => ['\\', 'n']
  | 12 => ['\\', 'f']
  | 13 => ['\\', 'r']
  | 34 => ['\\', c]
  | 92 => ['\\', c]
  | n =>
    if n < 32 then ['\\', 'u', '0', '0', Nat.digitChar (n / 16), Nat.digitChar (n % 16)]
    else [c]

/-- A text in quotation marks. -/
def writeText (text : String) : String :=
  String.ofList (mark :: text.toList.flatMap writeChar ++ [mark])

/-- The most places before the point of a number that is written without an exponent. -/
def mostPlaces : Int := 16

/-- The most zeros between the point and the digits of such a number. -/
def mostZeros : Int := 4

/-- Digits of which the last stands at `place`: with a point, so that they read back as a real, or
with one digit before the point and an exponent where too many places would have to be filled. -/
def writeDigits (digits : List Char) (place : Int) : List Char :=
  let before := digits.length + place
  if 0 ≤ place ∧ before ≤ mostPlaces then BinaryFormat.positional digits place ++ ['.', '0']
  else if place < 0 ∧ before ≤ mostPlaces ∧ -mostZeros ≤ before then
    BinaryFormat.positional digits place
  else
    let exponent := 'e' :: (toString (before - 1)).toList
    match digits with
    | [] | [_] => digits ++ exponent
    | first :: rest => first :: '.' :: rest ++ exponent

/-- A real number in its shortest digits. What is not finite has no written form. -/
def writeReal (number : Double) : String :=
  match number.parts with
  | .finite negative significand exponent =>
    let digits :=
      if significand = 0 then ['0', '.', '0']
      else
        let (digits, place) := BinaryFormat.double.shortestDigits significand exponent
        writeDigits (Nat.toDigits 10 digits) place
    String.ofList (if negative then '-' :: digits else digits)
  | _ => "null"

mutual

/-- Writes a value on one line behind what is written already. -/
def writeAfter (written : String) : Json → String
  | null | void => written ++ "null"
  | bool value => written ++ if value then "true" else "false"
  | int value => written ++ toString value
  | real value => written ++ writeReal value
  | text value => written ++ writeText value
  | list items => writeItems (written ++ "[") false items ++ "]"
  | object entries => writeEntries (written ++ "\x7b") false entries ++ "\x7d"

/-- Writes items with commas between them; `more` tells that one is written already. -/
def writeItems (written : String) (more : Bool) : List Json → String
  | [] => written
  | item :: rest =>
    writeItems (item.writeAfter (if more then written ++ "," else written)) true rest

def writeEntries (written : String) (more : Bool) : List (String × Json) → String
  | [] => written
  | (name, value) :: rest =>
    writeEntries
      (value.writeAfter ((if more then written ++ "," else written) ++ writeText name ++ ":"))
      true rest

end

mutual

/-- How deep lists and objects stand in one another. -/
def depth : Json → Nat
  | list items => depthItems items + 1
  | object entries => depthEntries entries + 1
  | _ => 0

def depthItems : List Json → Nat
  | [] => 0
  | item :: rest => max item.depth (depthItems rest)

def depthEntries : List (String × Json) → Nat
  | [] => 0
  | (_, value) :: rest => max value.depth (depthEntries rest)

end

mutual

/-- Whether nothing in a value is void. -/
def isSound : Json → Bool
  | void => false
  | list items => soundItems items
  | object entries => soundEntries entries
  | _ => true

def soundItems : List Json → Bool
  | [] => true
  | item :: rest => item.isSound && soundItems rest

def soundEntries : List (String × Json) → Bool
  | [] => true
  | (_, value) :: rest => value.isSound && soundEntries rest

end

/-- A value on one line. -/
def write (json : Json) : String := json.writeAfter ""

/-- A new line, indented. -/
def newLine (depth : Nat) : String :=
  String.ofList ('\n' :: List.replicate (2 * depth) ' ')

mutual

/-- A value over several lines, its inner lines indented by one more than `depth`. -/
def indentedAt (depth : Nat) : Json → String
  | list [] => "[]"
  | list (item :: rest) =>
    "[" ++ newLine (depth + 1) ++ item.indentedAt (depth + 1) ++ indentedItems depth rest ++
      newLine depth ++ "]"
  | object [] => "\x7b\x7d"
  | object ((name, value) :: rest) =>
    "\x7b" ++ newLine (depth + 1) ++ writeText name ++ ": " ++ value.indentedAt (depth + 1) ++
      indentedEntries depth rest ++ newLine depth ++ "\x7d"
  | json => json.write

/-- The items behind the first one. -/
def indentedItems (depth : Nat) : List Json → String
  | [] => ""
  | item :: rest =>
    "," ++ newLine (depth + 1) ++ item.indentedAt (depth + 1) ++ indentedItems depth rest

/-- The entries behind the first one. -/
def indentedEntries (depth : Nat) : List (String × Json) → String
  | [] => ""
  | (name, value) :: rest =>
    "," ++ newLine (depth + 1) ++ writeText name ++ ": " ++ value.indentedAt (depth + 1) ++
      indentedEntries depth rest

end

/-- A value over several lines. -/
def indented (json : Json) : String := json.indentedAt 0

end Json

end GraphSegments
