import GraphSegments.Query
import GraphSegments.Search.Fetching
import GraphSegments.Search.Ranking
import GraphSegments.Table.Name

/-!
What a search fetches for its matches: values of properties, timestamps, and the objects of a
page.
-/

namespace GraphSegments

namespace Loading

/-- Reads a row as the value that it holds of its object. -/
def valueOf (row : Row) : Except Error (String × Value) := do
  return (row.uri, ← Overflow.restore row.value row.fullText)

/-- The values that some objects hold of a property, in the order of their rows. -/
def propertyValues (table name : String) (uris : List String) :
    Dialogue (List (String × Value)) := do
  let rows ← Fetching.propertyRows table [name] uris
  Dialogue.take "ATTRIBUTES"
    (.summary ("SELECT * FROM " ++ table ++ " WHERE name IN (" ++ name ++ ")"))
  .ofExcept (rows.mapM valueOf)

/-- The timestamps of those objects that have one. -/
def timestampValues (table : String) (uris : List String) :
    Dialogue (List (String × Value)) := do
  let stamped ← Fetching.timestamps table uris
  Dialogue.take "TIMESTAMPS" (.summary ("SELECT DISTINCT uri, tstamp FROM " ++ table))
  return stamped.filterMap fun (uri, stamp) => stamp.map fun t => (uri, .long (.ofInt t))

/-- Completes objects one after the other out of the same texts. -/
def resolveEach (texts : List FullText) :
    List DecodedObject → Except Error (List GraphObject)
  | [] => .ok []
  | decoded :: rest => do
    let resolution := decoded.resolve texts
    let object ← resolution.result
    let others ← resolveEach resolution.left rest
    return object :: others

/-- The objects of one table. Long texts are fetched for those objects that have some. -/
def objects (registry : Registry) (read : ReadOptions) (table : String) (uris : List String) :
    Dialogue (List GraphObject) := do
  let rows ← Fetching.rows table uris false
  Dialogue.take "BATCH GET"
    (.summary ("SELECT ... FROM " ++ table ++ " WHERE uri IN (...) ORDER BY uri"))
  let decoded ← Dialogue.ofExcept
    (DecodedObject.ofBatch registry { read with overflow := .deferred } rows)
  let pending := (decoded.filter fun one => !one.deferred.isEmpty).map (·.object.uri)
  if pending.isEmpty then .ofExcept (resolveEach [] decoded)
  else
    let texts ← Fetching.fullTexts table pending
    Dialogue.take "FULL TEXT"
      (.summary ("SELECT uri, name, value_full_text FROM " ++ table))
    .ofExcept (resolveEach texts decoded)

/-- The objects of a page of hits, segment by segment, those of later segments first. -/
def pageObjects (registry : Registry) (read : ReadOptions) (tablesStart : String)
    (page : List Hit) (known : List GraphObject) :
    List (Segment × Nat) → Dialogue (List GraphObject)
  | [] => .done known
  | (segment, place) :: rest => do
    let uris := (page.filter (·.segment == place)).map (·.uri)
    if uris.isEmpty then pageObjects registry read tablesStart page known rest
    else
      let table := TableName.ofUri tablesStart segment.uri
      let found ← objects registry read table uris.mergeSort
      pageObjects registry read tablesStart page (found.reverse ++ known) rest

/-- Hands out each object to the first hit of its URI. -/
def deliver (objects : List GraphObject) : List Hit → List ResultElement
  | [] => []
  | hit :: rest =>
    match objects.find? (·.uri == hit.uri) with
    | none => deliver objects rest
    | some object =>
      ⟨object, hit.score⟩ :: deliver (objects.filter (·.uri != hit.uri)) rest

end Loading

end GraphSegments
