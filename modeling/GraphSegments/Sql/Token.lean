import GraphSegments.Text.Case
import GraphSegments.Text.Cut

/-!
The tokens of a statement's text, as SQLite takes them apart. White space and comments are left
out; names stand bare or in marks.
-/

namespace GraphSegments

inductive SqlToken where
  | word (text : String)
  /-- A text in marks; `mark` is the one that opens it. -/
  | quoted (mark : Char) (text : String)
  | symbol (c : Char)
  /-- Anything that has no place in a command: a number, an operator, an unclosed text. -/
  | misfit
  deriving DecidableEq, Repr

namespace SqlToken

/-- The double mark, which stands around names. -/
def nameMark : Char := Char.ofNat 34

/-- The single mark, which stands around texts. -/
def textMark : Char := Char.ofNat 39

/-- The marks that close with the same mark and are doubled inside. -/
def isMark (c : Char) : Bool := c = nameMark || c = textMark || c.toNat = 96

/-- White space between tokens can begin with these characters. -/
def startsSpace (c : Char) : Bool :=
  c = ' ' || c = '\t' || c = '\n' || c = '\r' || c.toNat = 12 || c.toNat = 0xfeff

/-- White space goes on with these characters, to which the vertical tab belongs. -/
def continuesSpace (c : Char) : Bool := c = ' ' || (9 ≤ c.toNat && c.toNat ≤ 13)

def startsWord (c : Char) : Bool := c.isAlpha || c = '_' || 128 ≤ c.toNat

def continuesWord (c : Char) : Bool := startsWord c || c.isDigit || c = '$'

def isSymbol (c : Char) : Bool := c = '(' || c = ')' || c = ',' || c = ';' || c = '.'

/-- Reads a text up to the mark that closes it. A doubled mark stands for itself. -/
def textAfter? (mark : Char) : List Char → Option (List Char × List Char)
  | [] => none
  | [c] => if c = mark then some ([], []) else none
  | c :: d :: rest =>
    if c = mark then
      if d = mark then (textAfter? mark rest).map fun (text, after) => (mark :: text, after)
      else some ([], d :: rest)
    else (textAfter? mark (d :: rest)).map fun (text, after) => (c :: text, after)

/-- What follows a comment that is open. One that nothing closes ends with the text. -/
def afterComment : List Char → List Char
  | '*' :: '/' :: rest => rest
  | _ :: rest => afterComment rest
  | [] => []

/-- Takes a text apart. Every step takes at least one character, so a text has enough steps when
it has as many as characters. -/
def ofChars : Nat → List Char → List SqlToken
  | 0, _ => []
  | _, [] => []
  | steps + 1, '-' :: '-' :: rest => ofChars steps (rest.dropWhile (· != '\n'))
  | steps + 1, '/' :: '*' :: c :: rest => ofChars steps (afterComment (c :: rest))
  | steps + 1, '[' :: rest =>
    match Text.cutFirst? ']' rest with
    | some (name, after) => quoted '[' (String.ofList name) :: ofChars steps after
    | none => [misfit]
  | steps + 1, c :: rest =>
    if startsSpace c then ofChars steps (rest.dropWhile continuesSpace)
    else if isMark c then
      match textAfter? c rest with
      | some (text, after) => quoted c (String.ofList text) :: ofChars steps after
      | none => [misfit]
    else if startsWord c then
      word (String.ofList (c :: rest.takeWhile continuesWord)) ::
        ofChars steps (rest.dropWhile continuesWord)
    else (if isSymbol c then symbol c else misfit) :: ofChars steps rest

/-- The tokens of a text. -/
def ofText (text : String) : List SqlToken := ofChars text.length text.toList

/-- The parts of a list of tokens between semicolons. -/
def statements : List SqlToken → List (List SqlToken)
  | [] => [[]]
  | token :: rest =>
    if token = symbol ';' then [] :: statements rest
    else
      match statements rest with
      | [] => [[token]]
      | first :: others => (token :: first) :: others

/-- Whether a token is a keyword. A name in marks never is. -/
def isKeyword (keyword : String) : SqlToken → Bool
  | word text => Text.lowerAscii text == keyword
  | _ => false

/-- The words that are never names. -/
def reserved : List String :=
  ["add", "all", "alter", "and", "as", "autoincrement", "between", "case", "check", "collate",
   "commit", "constraint", "create", "default", "deferrable", "delete", "distinct", "drop", "else",
   "escape", "except", "exists", "foreign", "from", "group", "having", "in", "index", "insert",
   "intersect", "into", "is", "isnull", "limit", "not", "nothing", "notnull", "null", "on", "or",
   "order", "primary", "references", "returning", "select", "set", "table", "then", "to",
   "transaction", "union", "unique", "update", "using", "values", "when", "where"]

/-- The name that a token stands for. -/
def name? : SqlToken → Option String
  | word text => if reserved.contains (Text.lowerAscii text) then none else some text
  | quoted _ text => some text
  | _ => none

end SqlToken

end GraphSegments
