import GraphSegments.Table.Reading

/-!
Putting fetched texts in the place of the markers that stood for them.
-/

namespace GraphSegments

/-- A text of a row that was too long for its column. -/
structure FullText where
  uri : String
  /-- The name under which rows have the property. -/
  storedName : String
  text : String
  deriving DecidableEq, Repr

/-- The row without its full text. -/
def Row.withoutFullText (row : Row) : Row := { row with fullText := none }

namespace FullText

/-- The full text of a row, if it has one. -/
def ofRow? (row : Row) : Option FullText := row.fullText.map fun text => ⟨row.uri, row.name, text⟩

/-- The texts of properties of objects, given by URI and stored name. Of what is given for the same
property of the same object, the last counts. -/
def ofGroups (groups : List (String × String × List String)) : List FullText :=
  let last := groups.reverse.eraseDupsBy fun a b => a.1 == b.1 && a.2.1 == b.2.1
  last.flatMap fun (uri, storedName, texts) => texts.map fun text => ⟨uri, storedName, text⟩

/-- The first text of a property of an object, and the texts without it. -/
def take? (uri storedName : String) : List FullText → Option (String × List FullText)
  | [] => none
  | first :: rest =>
    if first.uri = uri ∧ first.storedName = storedName then some (first.text, rest)
    else (take? uri storedName rest).map fun (text, left) => (text, first :: left)

/-- Replaces the first value that is a marker. -/
def replaceFirst (value : Value) : List Value → List Value
  | [] => []
  | first :: rest =>
    if Overflow.isMarked first then value :: rest else first :: replaceFirst value rest

/-- Puts a text into the place kept for it: the value of a single property, the first marker of a
list. -/
def place (value : Value) : PropertyValue → PropertyValue
  | .single _ => .single value
  | .multi values => .multi (replaceFirst value values)

end FullText

/-- What completing an object with texts came to: the object as far as it got, and the texts that
were not used. -/
structure Resolution where
  object : GraphObject
  left : List FullText
  outcome : Except Error Unit

namespace Resolution

/-- The object, if it lacks no text any more. -/
def result (resolution : Resolution) : Except Error GraphObject :=
  resolution.outcome.map fun _ => resolution.object

/-- Resolves texts one after the other, each with the first fetched one of its property, until one
is missing. -/
def ofDeferred (object : GraphObject) (texts : List FullText) : List DeferredText → Resolution
  | [] => ⟨object, texts, .ok ()⟩
  | pending :: rest =>
    match FullText.take? pending.uri pending.storedName texts with
    | none =>
      ⟨object, texts, .error (.integrity (.unresolvedText pending.property pending.uri))⟩
    | some (text, left) =>
      let object :=
        match object.get? pending.property with
        | none => object
        | some held =>
          object.set pending.property (FullText.place (Overflow.ofText pending.kind text) held)
      ofDeferred object left rest

end Resolution

/-- Completes an object with the texts that it lacks. -/
def DecodedObject.resolve (decoded : DecodedObject) (texts : List FullText) : Resolution :=
  .ofDeferred decoded.object texts decoded.deferred

end GraphSegments
