import GraphSegments.Table.Reading

/-!
Reading objects from rows that come one by one in the order of their URIs. Only the rows of the
current object are kept, and an object whose rows come back after a later one is reported.
-/

namespace GraphSegments

/-- The state of a stream of rows. -/
structure RowStream where
  /-- The rows of the object that is being collected. -/
  current : List Row
  /-- The URI of the object that was finished last. -/
  last : Option String
  deriving DecidableEq, Repr

namespace RowStream

def start : RowStream := ⟨[], none⟩

/-- Finishes the object that is being collected, whether it can be read or not. -/
def flush (registry : Registry) (options : ReadOptions) (stream : RowStream) :
    RowStream × Except Error (Option DecodedObject) :=
  match stream.current with
  | [] => (stream, .ok none)
  | first :: _ =>
    (⟨[], some first.uri⟩, DecodedObject.ofRows registry options stream.current)

/-- Takes the next row, and gives the previous object once the row belongs to another. A row that
comes out of order, or after an object that cannot be read, is not kept. -/
def push (registry : Registry) (options : ReadOptions) (stream : RowStream) (row : Row) :
    RowStream × Except Error (Option DecodedObject) :=
  if stream.current.head?.any (·.uri == row.uri) then
    ({ stream with current := stream.current ++ [row] }, .ok none)
  else
    match stream.flush registry options with
    | (flushed, .error error) => (flushed, .error error)
    | (flushed, .ok finished) =>
      match flushed.last with
      | some last =>
        if row.uri ≤ last then (flushed, .error (.integrity (.outOfOrder row.uri last)))
        else ({ flushed with current := [row] }, .ok finished)
      | none => ({ flushed with current := [row] }, .ok finished)

/-- Ends the stream. -/
def finish (registry : Registry) (options : ReadOptions) (stream : RowStream) :
    Except Error (Option DecodedObject) :=
  (stream.flush registry options).2

/-- What every row of a list gives, and the end of the stream after them, whatever fails. -/
def results (registry : Registry) (options : ReadOptions) (stream : RowStream) :
    List Row → List (Except Error (Option DecodedObject))
  | [] => [stream.finish registry options]
  | row :: rest =>
    let (next, finished) := stream.push registry options row
    finished :: next.results registry options rest

/-- Takes rows until one fails, and collects the objects that they finish. -/
def pushAll (registry : Registry) (options : ReadOptions) (stream : RowStream) :
    List Row → Except Error (RowStream × List DecodedObject)
  | [] => .ok (stream, [])
  | row :: rest =>
    match stream.push registry options row with
    | (_, .error error) => .error error
    | (next, .ok finished) => do
      let (last, others) ← next.pushAll registry options rest
      return (last, finished.toList ++ others)

end RowStream

end GraphSegments
