import GraphSegments.Sql.Dialect
import GraphSegments.Sql.Param

/-!
Parameters written into the text of a statement.
-/

namespace GraphSegments

namespace Dialect

/-- A backslash before a character. -/
def escaped (c : Char) : List Char := ['\\', c]

/-- The single quote. -/
def quote : Char := Char.ofNat 39

/-- The three octal digits of a character code. -/
def octal (n : Nat) : List Char :=
  [n / 64 % 8, n / 8 % 8, n % 8].map fun digit => Char.ofNat (48 + digit)

/-- One character of a text literal. SQLite doubles quotes and escapes nothing else; the others
escape with a backslash, each its own set of controls. -/
def literalChar (dialect : Dialect) (c : Char) : List Char :=
  match dialect with
  | sqlite => if c = quote then [quote, quote] else [c]
  | mysql =>
    match c.toNat with
    | 0 => escaped '0'
    | 8 => escaped 'b'
    | 9 => escaped 't'
    | 10 => escaped 'n'
    | 13 => escaped 'r'
    | 26 => escaped 'z'
    | 34 | 39 | 92 => escaped c
    | _ => [c]
  | postgres | redshift =>
    match c.toNat with
    | 0 => escaped '0'
    | 8 => escaped 'b'
    | 9 => escaped 't'
    | 10 => escaped 'n'
    | 12 => escaped 'f'
    | 13 => escaped 'r'
    | 39 | 92 => escaped c
    | n => if n < 32 ∨ n = 127 then '\\' :: octal n else [c]

/-- A text literal. Where a backslash was needed, PostgreSQL wants the literal marked. -/
def textLiteral (dialect : Dialect) (text : String) : String :=
  let chars := text.toList.flatMap dialect.literalChar
  let mark := dialect.isPostgres && chars != text.toList
  String.ofList ((if mark then ['E'] else []) ++ quote :: chars ++ [quote])

/-- A parameter as a literal. -/
def literal (dialect : Dialect) : Param → String
  | .bool (some b) => if b then "TRUE" else "FALSE"
  | .i16 (some n) | .i32 (some n) | .i64 (some n) => toString n
  | .u64 (some n) => toString n
  | .f32 (some x) => x.text
  | .f64 (some x) => x.text
  | .text (some s) => dialect.textLiteral s
  | _ => "NULL"

end Dialect

end GraphSegments
