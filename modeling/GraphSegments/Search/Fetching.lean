import GraphSegments.Search.Dialogue
import GraphSegments.Search.UriSet
import GraphSegments.Table.FullText

/-!
Fetching from a segment table. No statement names more than a batch of URIs, so long lists are
fetched part by part.
-/

namespace GraphSegments

namespace Fetching

/-- Fetches for one part of a list after the other. -/
def inParts {α : Type} (fetch : List String → Dialogue (List α)) :
    List (List String) → Dialogue (List α)
  | [] => .done []
  | part :: rest => do
    let found ← fetch part
    let others ← inParts fetch rest
    return found ++ others

/-- Fetches for all of a list. -/
def forUris {α : Type} (uris : List String) (fetch : List String → Dialogue (List α)) :
    Dialogue (List α) :=
  inParts fetch (Statement.chunks Statement.uriBatch uris)

/-- Asks for records and reads them as rows. -/
def askRows (withFullText : Bool) (select : Select) : Dialogue (List Row) := do
  let records ← Dialogue.askRecords select
  .ofExcept (Record.toRows withFullText records)

/-- The rows of objects in ascending order of their URIs. -/
def rows (table : String) (uris : List String) (withFullText : Bool) : Dialogue (List Row) := do
  let found ← forUris uris fun part =>
    askRows withFullText (.rowsOf table part withFullText)
  return found.mergeSort fun a b => a.uri ≤ b.uri

/-- The rows of objects that hold one of some properties. -/
def propertyRows (table : String) (names uris : List String) : Dialogue (List Row) :=
  forUris uris fun part => askRows true (.propertyRows table names part)

/-- One full text. -/
def fullText (record : Record) : Except Error FullText := do
  return ⟨record.uri, record.name, ← Record.text record.fullText⟩

/-- The full texts of objects in the order of their rows. -/
def fullTexts (table : String) (uris : List String) : Dialogue (List FullText) :=
  forUris uris fun part => do
    let records ← Dialogue.askRecords (.fullTextRows table part)
    .ofExcept (records.mapM fullText)

/-- Those of some objects that a table has. -/
def objectsAmong (table : String) (uris : List String) : Dialogue UriSet := do
  let found ← forUris uris fun part => Dialogue.askUris (.objectsAmong table part)
  return UriSet.ofList found

/-- One object with its timestamp. -/
def timestamp (record : Record) : Except Error (String × Option Int) := do
  return (record.uri, ← Record.optional (Record.whole 64) record.tstamp)

/-- Objects with their timestamps; one of different timestamps comes once with each. -/
def timestamps (table : String) (uris : List String) :
    Dialogue (List (String × Option Int)) :=
  forUris uris fun part => do
    let records ← Dialogue.askRecords (.timestamps table part)
    .ofExcept (records.mapM timestamp)

/-- A page of the objects of a table. -/
def page (table : String) (offset limit : Nat) : Dialogue (List String) :=
  Dialogue.askUris (.pageOfObjects table offset limit)

end Fetching

end GraphSegments
