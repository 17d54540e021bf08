import GraphSegments.Sql.Token

/-!
The commands that change which tables and indexes there are, read from text as SQLite reads it.
-/

namespace GraphSegments

/-- A name that may say which schema it is of. -/
structure QualifiedName where
  schema : Option String
  name : String
  deriving DecidableEq, Repr

/-- A column of an index. A name in double marks that is no column stands for a constant. -/
structure IndexedColumn where
  name : String
  canBeConstant : Bool
  /-- The way of comparing that is asked for. -/
  collation : Option String
  deriving DecidableEq, Repr

/-- A command. A lenient one is content where there is nothing to do. -/
inductive SchemaCommand where
  | createIndex (lenient : Bool) (index : QualifiedName) (table : String)
      (columns : List IndexedColumn)
  | dropIndex (lenient : Bool) (index : QualifiedName)
  | dropTable (lenient : Bool) (table : QualifiedName)
  deriving DecidableEq, Repr

namespace SchemaCommand

open SqlToken

/-- Passes over keywords. -/
def keywords? : List String → List SqlToken → Option (List SqlToken)
  | [], tokens => some tokens
  | _ :: _, [] => none
  | keyword :: others, token :: rest =>
    if isKeyword keyword token then keywords? others rest else none

/-- Passes over what makes a command lenient. A bare `if` can begin nothing else. -/
def leniency? (condition : List String) (tokens : List SqlToken) : Option (Bool × List SqlToken) :=
  match tokens with
  | token :: rest =>
    if isKeyword "if" token then (keywords? condition rest).map fun rest => (true, rest)
    else some (false, tokens)
  | [] => none

/-- Reads a name with or without its schema. -/
def qualifiedName? : List SqlToken → Option (QualifiedName × List SqlToken)
  | first :: symbol '.' :: second :: rest => do
    return (⟨some (← first.name?), ← second.name?⟩, rest)
  | first :: rest => first.name?.map fun name => (⟨none, name⟩, rest)
  | [] => none

/-- Reads the collation of a column, if one is asked for. -/
def collation? : List SqlToken → Option (Option String × List SqlToken)
  | token :: rest =>
    if isKeyword "collate" token then
      match rest with
      | collation :: rest => collation.name?.map fun collation => (some collation, rest)
      | [] => none
    else some (none, token :: rest)
  | [] => some (none, [])

/-- Passes over the direction of a column. -/
def afterDirection : List SqlToken → List SqlToken
  | [] => []
  | token :: rest =>
    if isKeyword "asc" token || isKeyword "desc" token then rest else token :: rest

/-- Reads the columns of an index up to the parenthesis that ends the command. -/
def columns? : Nat → List SqlToken → Option (List IndexedColumn)
  | 0, _ => none
  | _, [] => none
  | steps + 1, token :: rest => do
    let name ← token.name?
    let canBeConstant := match token with
      | quoted mark _ => mark = nameMark
      | _ => false
    let (collation, rest) ← collation? rest
    let column : IndexedColumn := ⟨name, canBeConstant, collation⟩
    match afterDirection rest with
    | [symbol ')'] => some [column]
    | symbol ',' :: rest => (columns? steps rest).map (column :: ·)
    | _ => none

/-- Reads a command that takes up all tokens. -/
def ofTokens? (tokens : List SqlToken) : Option SchemaCommand :=
  match keywords? ["create", "index"] tokens with
  | some rest => do
    let (lenient, rest) ← leniency? ["not", "exists"] rest
    let (index, rest) ← qualifiedName? rest
    match ← keywords? ["on"] rest with
    | table :: symbol '(' :: rest =>
      return .createIndex lenient index (← table.name?) (← columns? rest.length rest)
    | _ => none
  | none =>
    match keywords? ["drop", "index"] tokens, keywords? ["drop", "table"] tokens with
    | some rest, _ => do
      let (lenient, rest) ← leniency? ["exists"] rest
      match ← qualifiedName? rest with
      | (index, []) => some (.dropIndex lenient index)
      | _ => none
    | none, some rest => do
      let (lenient, rest) ← leniency? ["exists"] rest
      match ← qualifiedName? rest with
      | (table, []) => some (.dropTable lenient table)
      | _ => none
    | none, none => none

/-- The commands of a text in turn; `none` stands for what cannot be read. -/
def ofText (text : String) : List (Option SchemaCommand) :=
  ((SqlToken.statements (SqlToken.ofText text)).filter (!·.isEmpty)).map ofTokens?

end SchemaCommand

end GraphSegments
