import GraphSegments.Store.Objects
import GraphSegments.Table.Stream

/-!
Scanning a segment: its objects are handed over page by page in the order of their URIs. Rows go
through a stream, so the last object of a page comes with the next one, and the very last in a
page of its own.
-/

namespace GraphSegments

namespace StoreScope

variable {σ : Type}

/-- The rows of a page as a stream goes through them. -/
def streamPage (scope : StoreScope) (database : Database) (table : String) (uris : List String)
    (stream : RowStream) : Except Error (RowStream × List GraphObject) := do
  let rows ← (Fetching.rows table uris true).run database
  let (next, finished) ← stream.pushAll scope.registry scope.settings.read rows
  return (next, finished.map (·.object))

/-- Hands over the last object. -/
def scanLast (scope : StoreScope) (handler : σ → List GraphObject → Except Error σ)
    (state : σ) (delivered : Nat) (stream : RowStream) : σ × Except Error Nat :=
  match stream.finish scope.registry scope.settings.read with
  | .error error => (state, .error error)
  | .ok none => (state, .ok delivered)
  | .ok (some decoded) =>
    match handler state [decoded.object] with
    | .error error => (state, .error error)
    | .ok next => (next, .ok (delivered + 1))

/-- Hands over one page after the other until a page is empty. Every page but the last one moves
the offset on, so there are no more pages than `steps`. -/
def scanFrom (scope : StoreScope) (database : Database) (table : String) (size : Nat)
    (handler : σ → List GraphObject → Except Error σ) :
    Nat → Nat → Nat → RowStream → σ → σ × Except Error Nat
  | 0, _, delivered, stream, state => scope.scanLast handler state delivered stream
  | steps + 1, offset, delivered, stream, state =>
    match (Fetching.page table offset size).run database with
    | .error error => (state, .error error)
    | .ok [] => scope.scanLast handler state delivered stream
    | .ok uris =>
      match scope.streamPage database table uris stream with
      | .error error => (state, .error error)
      | .ok (next, []) =>
        scope.scanFrom database table size handler steps (offset + uris.length) delivered next state
      | .ok (next, objects) =>
        match handler state objects with
        | .error error => (state, .error error)
        | .ok accepted =>
          scope.scanFrom database table size handler steps (offset + uris.length)
            (delivered + objects.length) next accepted

/-- Scans a segment. The handler can end the scan by an error; what it made of the pages before
that is kept. The answer tells how many objects were handed over. -/
def scan (scope : StoreScope) (database : Database) (segment : Segment) (size : Nat)
    (handler : σ → List GraphObject → Except Error σ) (state : σ) : σ × Except Error Nat :=
  if size = 0 then (state, .error (.query .emptyPage))
  else
    match scope.requireTable database segment with
    | .error error => (state, .error error)
    | .ok table =>
      match database.countObjects table with
      | .error error => (state, .error error)
      | .ok count => scope.scanFrom database table size handler count 0 0 .start state

end StoreScope

end GraphSegments
