import GraphSegments.Database

/-!
Dialogues: what a search asks of a database, one question after the other, each depending on the
answers before. A dialogue can be held with a database, or with a list of prepared answers; the
transcript of it has the statements asked and the notes taken on the way.
-/

namespace GraphSegments

/-- What is noted of a statement: the statement, or a summary of it. -/
inductive NoteText where
  | statement (select : Select)
  | summary (text : String)
  deriving Repr, Inhabited

/-- A note of what was asked, for the statistics of a query. -/
structure Note where
  label : String
  text : NoteText
  deriving Repr, Inhabited

/-- A conversation with a database that ends with a value or an error. -/
inductive Dialogue (α : Type) where
  | done (value : α)
  | fail (error : Error)
  /-- Asks for URIs. -/
  | uris (select : Select) (next : List String → Dialogue α)
  /-- Asks for records. -/
  | records (select : Select) (next : List Record → Dialogue α)
  /-- Asks for all objects of the table of a segment, by the place of the segment in the query.
  The answer may come from memory when it was asked before. -/
  | every (place : Nat) (table : String) (next : List String → Dialogue α)
  /-- Asks whether a condition of that depth can be read. If not, the dialogue fails. -/
  | depth (depth : Nat) (next : Dialogue α)
  | note (note : Note) (next : Dialogue α)

namespace Dialogue

variable {α β : Type}

/-- Goes on with the value of a dialogue. -/
def bind (dialogue : Dialogue α) (next : α → Dialogue β) : Dialogue β :=
  match dialogue with
  | done value => next value
  | fail error => fail error
  | uris select rest => uris select fun answer => (rest answer).bind next
  | records select rest => records select fun answer => (rest answer).bind next
  | every place table rest => every place table fun answer => (rest answer).bind next
  | depth needed rest => depth needed (rest.bind next)
  | note entry rest => note entry (rest.bind next)

instance : Monad Dialogue where
  pure := done
  bind := bind

/-- A result that needs no question. -/
def ofExcept : Except Error α → Dialogue α
  | .ok value => done value
  | .error error => fail error

def askUris (select : Select) : Dialogue (List String) := uris select done

def askRecords (select : Select) : Dialogue (List Record) := records select done

def askEvery (place : Nat) (table : String) : Dialogue (List String) := every place table done

def reach (needed : Nat) : Dialogue Unit := depth needed (done ())

def take (label : String) (text : NoteText) : Dialogue Unit := note ⟨label, text⟩ (done ())

/-- Holds a dialogue with a database. -/
def run (database : Database) : Dialogue α → Except Error α
  | done value => .ok value
  | fail error => .error error
  | uris select next => do
    let records ← database.recordsOf select.table
    (next (select.uris database.patterns records)).run database
  | records select next => do
    let records ← database.recordsOf select.table
    (next (select.records database.patterns records)).run database
  | every _ table next => do
    let records ← database.recordsOf table
    (next ((Select.everyObject table).uris database.patterns records)).run database
  | depth needed next =>
    if needed ≤ Database.deepest then next.run database else .error .storage
  | note _ next => next.run database

/-- Who answers questions. The number of questions answered before may decide the answer. -/
structure Responder where
  uris : Nat → Select → Except Error (List String)
  records : Nat → Select → Except Error (List Record)
  /-- Whether a condition of a depth can be read. -/
  reads : Nat → Bool

/-- A database answers by what it holds. -/
def Responder.ofDatabase (database : Database) : Responder where
  uris := fun _ select => do
    return select.uris database.patterns (← database.recordsOf select.table)
  records := fun _ select => do
    return select.records database.patterns (← database.recordsOf select.table)
  reads := fun depth => depth ≤ Database.deepest

/-- Prepared answers hold URIs only, and nothing once they run out. -/
def Responder.ofAnswers (answers : List (List String)) : Responder where
  uris := fun number _ => .ok (answers[number]?.getD [])
  records := fun number _ => .ok ((answers[number]?.getD []).map Record.ofUri)
  reads := fun _ => true

/-- What a dialogue came to, and how. -/
structure Transcript (α : Type) where
  outcome : Except Error α
  statements : List Select
  notes : List Note

/-- The note of a question for all objects of a table. -/
def everyNote (table : String) : Note :=
  ⟨"ALL URIS", .summary ("SELECT DISTINCT uri FROM " ++ table)⟩

/-- Holds a dialogue and keeps its transcript; `memory` has the objects of the segments asked for
before, by their place. -/
def transcript (responder : Responder) (number : Nat) (memory : List (Nat × List String)) :
    Dialogue α → Transcript α
  | done value => ⟨.ok value, [], []⟩
  | fail error => ⟨.error error, [], []⟩
  | uris select next =>
    match responder.uris number select with
    | .error error => ⟨.error error, [select], []⟩
    | .ok answer =>
      let rest := (next answer).transcript responder (number + 1) memory
      { rest with statements := select :: rest.statements }
  | records select next =>
    match responder.records number select with
    | .error error => ⟨.error error, [select], []⟩
    | .ok answer =>
      let rest := (next answer).transcript responder (number + 1) memory
      { rest with statements := select :: rest.statements }
  | every place table next =>
    match memory.find? (·.1 == place) with
    | some (_, known) => (next known).transcript responder number memory
    | none =>
      let select := Select.everyObject table
      match responder.uris number select with
      | .error error => ⟨.error error, [select], []⟩
      | .ok answer =>
        let rest := (next answer).transcript responder (number + 1) ((place, answer) :: memory)
        { rest with
          statements := select :: rest.statements
          notes := everyNote table :: rest.notes }
  | depth needed next =>
    if responder.reads needed then next.transcript responder number memory
    else ⟨.error .storage, [], []⟩
  | note entry next =>
    let rest := next.transcript responder number memory
    { rest with notes := entry :: rest.notes }

end Dialogue

end GraphSegments
