import GraphSegments.Json.Number
import GraphSegments.Text.Hexadecimal

/-!
Reading JSON texts.
-/

namespace GraphSegments.Json

/-- White space between the parts of a JSON text. -/
def isSpace (c : Char) : Bool := c = ' ' || c = '\n' || c = '\t' || c = '\r'

/-- What follows white space. -/
def skip (chars : List Char) : List Char := chars.dropWhile isSpace

/-- The character that a letter behind a backslash stands for. -/
def escapedChar? (c : Char) : Option Char :=
  match c with
  | 'b' => some (Char.ofNat 8)
  | 'f' => some (Char.ofNat 12)
  | 'n' => some '\n'
  | 'r' => some '\r'
  | 't' => some '\t'
  | '/' => some '/'
  | '\\' => some '\\'
  | c => if c = mark then some c else none

/-- The first half of a pair of numbers that make up one character. -/
def isHighHalf (n : Nat) : Bool := 0xd800 ≤ n && n < 0xdc00

def isLowHalf (n : Nat) : Bool := 0xdc00 ≤ n && n < 0xe000

/-- The character of a number that is no half of a pair. -/
def wholeChar? (n : Nat) : Option Char :=
  if isHighHalf n || isLowHalf n then none else some (Char.ofNat n)

/-- The character that two numbers make up, a high half and a low one. -/
def joinedChar? (high low : Nat) : Option Char :=
  if isHighHalf high && isLowHalf low then
    some (Char.ofNat (0x10000 + (high - 0xd800) * 0x400 + (low - 0xdc00)))
  else none

/-- Reads a text behind its opening mark; `read` has the characters read so far, the last first.
A half that stands alone leaves no text, but what follows has to be well formed all the same. -/
def textAfter? (read : Option (List Char)) : List Char → Option (Option String × List Char)
  | [] => none
  | '\\' :: 'u' :: a :: b :: c :: d :: rest =>
    match Text.hexNumber? a b c d with
    | none => none
    | some n =>
      match rest with
      | '\\' :: 'u' :: e :: f :: g :: h :: more =>
        match (Text.hexNumber? e f g h).bind (joinedChar? n) with
        | some joined => textAfter? (read.map (joined :: ·)) more
        | none =>
          textAfter? (read.bind fun read => (wholeChar? n).map (· :: read))
            ('\\' :: 'u' :: e :: f :: g :: h :: more)
      | rest => textAfter? (read.bind fun read => (wholeChar? n).map (· :: read)) rest
  | '\\' :: c :: rest =>
    match escapedChar? c with
    | some escaped => textAfter? (read.map (escaped :: ·)) rest
    | none => none
  | c :: rest =>
    if c = mark then some (read.map fun read => String.ofList read.reverse, rest)
    else if c.toNat < 32 ∨ c = '\\' then none
    else textAfter? (read.map (c :: ·)) rest

/-- Reads a text with its marks. -/
def text? : List Char → Option (Option String × List Char)
  | c :: rest => if c = mark then textAfter? (some []) rest else none
  | [] => none

/-- The fixed words. -/
def word? (chars : List Char) : Option (Json × List Char) :=
  match Text.strip? "null".toList chars with
  | some rest => some (null, rest)
  | none =>
    match Text.strip? "true".toList chars with
    | some rest => some (bool true, rest)
    | none => (Text.strip? "false".toList chars).map fun rest => (bool false, rest)

mutual

/-- Reads a value. Every step takes at least one character, so a text has enough steps when it has
as many as characters. -/
def value? : Nat → List Char → Option (Json × List Char)
  | 0, _ => none
  | steps + 1, chars =>
    match skip chars with
    | '[' :: rest =>
      match skip rest with
      | ']' :: rest => some (list [], rest)
      | rest => items? steps [] rest
    | '\x7b' :: rest =>
      match skip rest with
      | '\x7d' :: rest => some (object [], rest)
      | rest => entries? steps (some []) rest
    | '-' :: rest => numberAfter? true rest
    | c :: rest =>
      if c = mark then
        match textAfter? (some []) rest with
        | some (some content, rest) => some (text content, rest)
        | some (none, rest) => some (void, rest)
        | none => none
      else if c.isDigit then numberAfter? false (c :: rest)
      else word? (c :: rest)
    | [] => none

/-- Reads the items of a list from one on; `read` has the items before it, the last first. -/
def items? : Nat → List Json → List Char → Option (Json × List Char)
  | 0, _, _ => none
  | steps + 1, read, chars =>
    match value? steps chars with
    | none => none
    | some (item, rest) =>
      match skip rest with
      | ',' :: rest => items? steps (item :: read) rest
      | ']' :: rest => some (list (item :: read).reverse, rest)
      | _ => none

/-- Reads the entries of an object from one on. There are none to speak of once a name is none. -/
def entries? : Nat → Option (List (String × Json)) → List Char → Option (Json × List Char)
  | 0, _, _ => none
  | steps + 1, read, chars =>
    match text? (skip chars) with
    | none => none
    | some (name, rest) =>
      match skip rest with
      | ':' :: rest =>
        match value? steps rest with
        | none => none
        | some (value, rest) =>
          let known := read.bind fun read => name.map fun name => (name, value) :: read
          match skip rest with
          | ',' :: rest => entries? steps known rest
          | '\x7d' :: rest => some ((known.map fun read => object read.reverse).getD void, rest)
          | _ => none
      | _ => none

end

/-- Reads a whole text as one value, which can have void parts. -/
def parse? (raw : String) : Option Json :=
  let chars := raw.toList
  match value? (chars.length + 1) chars with
  | some (json, rest) => if (skip rest).isEmpty then some json else none
  | none => none

/-- Reads a whole text as one value without void parts. -/
def read? (raw : String) : Option Json := (parse? raw).filter isSound

end GraphSegments.Json
