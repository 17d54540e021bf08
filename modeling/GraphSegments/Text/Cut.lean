/-!
Taking texts apart at a character or at a piece of text.
-/

namespace GraphSegments.Text

/-- The parts before and after the first occurrence of a character. -/
def cutFirst? (mark : Char) : List Char → Option (List Char × List Char)
  | [] => none
  | c :: rest =>
    if c = mark then some ([], rest)
    else (cutFirst? mark rest).map fun (before, after) => (c :: before, after)

/-- The parts between the occurrences of a character; there is always at least one. -/
def pieces (mark : Char) : List Char → List (List Char)
  | [] => [[]]
  | c :: rest =>
    if c = mark then [] :: pieces mark rest
    else
      match pieces mark rest with
      | [] => [[c]]
      | piece :: others => (c :: piece) :: others

/-- The rest of a text that starts with `start`. -/
def strip? : List Char → List Char → Option (List Char)
  | [], chars => some chars
  | _ :: _, [] => none
  | s :: start, c :: chars => if s = c then strip? start chars else none

/-- The rest of a text that starts with `start`. -/
def stripText? (start text : String) : Option String :=
  (strip? start.toList text.toList).map String.ofList

/-- The parts before and after the last occurrence of a piece of text. -/
def cutLast? (mark : List Char) : List Char → Option (List Char × List Char)
  | [] => (strip? mark []).map fun after => ([], after)
  | c :: rest =>
    match cutLast? mark rest with
    | some (before, after) => some (c :: before, after)
    | none => (strip? mark (c :: rest)).map fun after => ([], after)

/-- Whether a piece of text occurs in another. The empty one occurs everywhere. -/
def occursIn (needle : List Char) : List Char → Bool
  | [] => needle.isEmpty
  | c :: rest => needle.isPrefixOf (c :: rest) || occursIn needle rest

/-- The number written by ASCII digits with an optional plus sign, below `limit`. -/
def boundedNat? (limit : Nat) (chars : List Char) : Option Nat :=
  let digits := (strip? ['+'] chars).getD chars
  let value := digits.foldl (fun value c => 10 * value + (c.toNat - 48)) 0
  if digits.isEmpty || !digits.all Char.isDigit || limit ≤ value then none else some value

/-- The integer written by ASCII digits with an optional sign, in the two's complement range of
`bits` bits. -/
def boundedInt? (bits : Nat) (chars : List Char) : Option Int :=
  match chars with
  | '-' :: digits =>
    if digits.head? = some '+' then none
    else (boundedNat? (Nat.pow 2 (bits - 1) + 1) digits).map fun value => -(value : Int)
  | chars => (boundedNat? (Nat.pow 2 (bits - 1)) chars).map fun value => (value : Int)

end GraphSegments.Text
