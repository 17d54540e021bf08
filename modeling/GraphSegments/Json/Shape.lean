import GraphSegments.Json

/-!
What JSON values stand for in general: records by name or in order, choices by name, and numbers
within bounds.
-/

namespace GraphSegments.Json

/-- The value of a name that must not be repeated. The outer option tells whether that holds. -/
def unique? (entries : List (String × Json)) (name : String) : Option (Option Json) :=
  match entries.filter (·.1 == name) with
  | [] => some none
  | [(_, value)] => some (some value)
  | _ => none

/-- The fields of a record, in the order of their names. A list has them in that order as well,
where the last `spare` ones can be missing. -/
def fields? (names : List String) (spare : Nat) : Json → Option (List (Option Json))
  | object entries => names.mapM (unique? entries)
  | list items =>
    if items.length ≤ names.length ∧ names.length ≤ items.length + spare then
      some (items.map some ++ List.replicate (names.length - items.length) none)
    else none
  | _ => none

/-- A field that has to be there. -/
def required {α : Type} (read : Json → Option α) (field : Option Json) : Option α :=
  field.bind read

/-- A field that can be missing, or null. -/
def optional {α : Type} (read : Json → Option α) : Option Json → Option (Option α)
  | none | some null => some none
  | some json => (read json).map some

/-- The name of a choice that carries nothing. -/
def choice? : Json → Option String
  | text name => some name
  | object [(name, null)] => some name
  | _ => none

/-- One of the values of a finite kind, by its name. -/
def oneOf? {α : Type} (all : List α) (nameOf : α → String) (json : Json) : Option α :=
  json.choice?.bind fun name => all.find? fun item => nameOf item == name

/-- A choice that carries something, by its name. -/
def tagged? : Json → Option (String × Json)
  | object [(name, value)] => some (name, value)
  | _ => none

def asBool? : Json → Option Bool
  | bool value => some value
  | _ => none

def asText? : Json → Option String
  | text value => some value
  | _ => none

/-- An integer within bounds. -/
def asInt? (least most : Int) : Json → Option Int
  | int value => if least ≤ value ∧ value ≤ most then some value else none
  | _ => none

/-- A natural number of so many bits. -/
def asNat? (bits : Nat) (json : Json) : Option Nat :=
  (json.asInt? 0 (Nat.pow 2 bits - 1)).map Int.toNat

/-- A number as a double. -/
def asDouble? : Json → Option Double
  | int value => some (.ofInt value)
  | real value => some value
  | _ => none

/-- A number as a float. Integers are rounded once. -/
def asSingle? : Json → Option Single
  | int value => some (.ofInt value)
  | real value => some value.toSingle
  | _ => none

def asList? {α : Type} (read : Json → Option α) : Json → Option (List α)
  | list items => items.mapM read
  | _ => none

/-- A double, unless it is not finite. -/
def ofDouble (number : Double) : Json := if number.isFinite then real number else null

def ofTexts (texts : List String) : Json := list (texts.map text)

def ofOption {α : Type} (write : α → Json) : Option α → Json
  | none => null
  | some value => write value

end GraphSegments.Json
