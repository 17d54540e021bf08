import GraphSegments.Text.HiddenTable

/-!
The quoted form that error texts use for a name that may hold anything: double quotes around it,
escapes for quotes, backslashes and line controls, and hidden characters by number.
-/

namespace GraphSegments.Text

/-- Whether a character is written by number. -/
def isHidden (c : Char) : Bool :=
  let n := c.toNat
  n < 32 || n == 127 || (128 ≤ n && hiddenRanges.any fun (first, last) => first ≤ n && n ≤ last)

/-- One character of a quoted text. -/
def quoteChar (c : Char) : List Char :=
  if c.toNat = 0 then ['\\', '0']
  else if c = '\t' then ['\\', 't']
  else if c = '\n' then ['\\', 'n']
  else if c = '\r' then ['\\', 'r']
  else if c = '\\' then ['\\', '\\']
  else if c.toNat = 34 then ['\\', c]
  else if isHidden c then
    '\\' :: 'u' :: '\x7b' :: Nat.toDigits 16 c.toNat ++ ['\x7d']
  else [c]

/-- The quoted form of a text. -/
def quoted (text : String) : String :=
  String.ofList (Char.ofNat 34 :: text.toList.flatMap quoteChar ++ [Char.ofNat 34])

end GraphSegments.Text
