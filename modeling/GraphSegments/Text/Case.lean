import GraphSegments.Text.CaseTable

/-!
Lower case, in two strengths: of all of Unicode, which is what query operands get, and of ASCII
alone, which is what a database's `LOWER` gives.
-/

namespace GraphSegments.Text

/-- Whether a code point lies in one of the ranges. -/
def inRanges (ranges : List (Nat × Nat)) (n : Nat) : Bool :=
  ranges.any fun (first, last) => first ≤ n && n ≤ last

def isCased (c : Char) : Bool := inRanges casedRanges c.toNat

def isCaseIgnorable (c : Char) : Bool := inRanges caseIgnorableRanges c.toNat

/-- The lower case of a character that has a mapping to one character. -/
def lowerSimple (c : Char) : Char :=
  if c.toNat < 128 then c.toLower
  else
    match lowerRuns.find? fun run =>
        run.first ≤ c.toNat && c.toNat ≤ run.last && (c.toNat - run.first) % run.stride == 0 with
    | some run => Char.ofNat (c.toNat + run.shift).toNat
    | none => c

/-- Whether the nearest character that is not passed over has a case. -/
def meetsCased (chars : List Char) : Bool :=
  match chars.dropWhile isCaseIgnorable with
  | c :: _ => isCased c
  | [] => false

/-- The capital sigma, whose lower case depends on its place in the word. -/
def capitalSigma : Char := Char.ofNat 0x3a3

/-- The capital dotted I, whose lower case keeps the dot as a mark of its own. -/
def capitalDottedI : Char := Char.ofNat 0x130

/-- Lower case from left to right; `before` holds the characters passed, the last one first. A
sigma that follows a cased letter and precedes none is written in its final form. -/
def lowerAfter (before : List Char) : List Char → List Char
  | [] => []
  | c :: rest =>
    let lowered :=
      if c = capitalSigma then
        [Char.ofNat (if meetsCased before && !meetsCased rest then 0x3c2 else 0x3c3)]
      else if c = capitalDottedI then ['i', Char.ofNat 0x307]
      else [lowerSimple c]
    lowered ++ lowerAfter (c :: before) rest

/-- The lower case of a text in all of Unicode. -/
def lower (text : String) : String := String.ofList (lowerAfter [] text.toList)

/-- The text with its ASCII letters in lower case. -/
def lowerAscii (text : String) : String := String.ofList (text.toList.map Char.toLower)

end GraphSegments.Text
