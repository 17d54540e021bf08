import GraphSegments.Criteria
import GraphSegments.Json.Values

/-!
Criteria in JSON.
-/

namespace GraphSegments

namespace Comparator

def toJson (comparator : Comparator) : Json := .text comparator.name

def ofJson? (json : Json) : Option Comparator := json.oneOf? all name

end Comparator

namespace Operand

def toJson : Operand → Json
  | single value => .object [("Single", value.toJson)]
  | list values => .object [("List", .list (values.map Value.toJson))]

def ofJson? (json : Json) : Option Operand := do
  match ← json.tagged? with
  | ("Single", value) => (Value.ofJson? value).map single
  | ("List", values) => (values.asList? Value.ofJson?).map list
  | _ => none

end Operand

namespace PropertyCriterion

def toJson (criterion : PropertyCriterion) : Json :=
  .object
    [("property", .text criterion.property), ("comparator", criterion.comparator.toJson),
      ("value", .ofOption Operand.toJson criterion.operand),
      ("negated", .bool criterion.negated), ("expand_property", .bool criterion.expand),
      ("expanded", .ofTexts criterion.expanded)]

/-- Reads a criterion. The expanded properties can be missing, but not null. -/
def ofJson? (json : Json) : Option PropertyCriterion := do
  match ← json.fields?
      ["property", "comparator", "value", "negated", "expand_property", "expanded"] 1 with
  | [property, comparator, operand, negated, expand, expanded] =>
    return ⟨← Json.required Json.asText? property,
      ← Json.required Comparator.ofJson? comparator,
      ← Json.optional Operand.ofJson? operand,
      ← Json.required Json.asBool? negated,
      ← Json.required Json.asBool? expand,
      ← Json.asList? Json.asText? (expanded.getD (.list []))⟩
  | _ => none

end PropertyCriterion

namespace TypeCriterion

def toJson (criterion : TypeCriterion) : Json :=
  .object
    [("types", .ofTexts criterion.types), ("comparator", criterion.comparator.toJson),
      ("expand_types", .bool criterion.expand), ("negated", .bool criterion.negated)]

def ofJson? (json : Json) : Option TypeCriterion := do
  match ← json.fields? ["types", "comparator", "expand_types", "negated"] 0 with
  | [types, comparator, expand, negated] =>
    return ⟨← Json.required (Json.asList? Json.asText?) types,
      ← Json.required Comparator.ofJson? comparator,
      ← Json.required Json.asBool? expand,
      ← Json.required Json.asBool? negated⟩
  | _ => none

end TypeCriterion

namespace Criterion

def toJson : Criterion → Json
  | property criterion => .object [("Property", criterion.toJson)]
  | type criterion => .object [("Type", criterion.toJson)]

def ofJson? (json : Json) : Option Criterion := do
  match ← json.tagged? with
  | ("Property", criterion) => (PropertyCriterion.ofJson? criterion).map property
  | ("Type", criterion) => (TypeCriterion.ofJson? criterion).map type
  | _ => none

end Criterion

namespace Connective

def all : List Connective := [and, or]

def tag : Connective → String
  | and => "And"
  | or => "Or"

def toJson (connective : Connective) : Json := .text connective.tag

def ofJson? (json : Json) : Option Connective := json.oneOf? all tag

end Connective

/-- A container out of its connective and its written elements. -/
def Container.record (connective : Connective) (elements : List Json) : Json :=
  .object [("kind", connective.toJson), ("elements", .list elements)]

mutual

def Element.toJson : Element → Json
  | .leaf criterion => .object [("Criterion", criterion.toJson)]
  | .nested connective elements =>
    .object [("Container", Container.record connective (Element.toJsonAll elements))]

def Element.toJsonAll : List Element → List Json
  | [] => []
  | element :: rest => element.toJson :: Element.toJsonAll rest

end

namespace Container

def toJson (container : Container) : Json :=
  record container.connective (Element.toJsonAll container.elements)

mutual

/-- Reads a container that is nested no deeper than `steps`. -/
def within? : Nat → Json → Option Container
  | 0, _ => none
  | steps + 1, json => do
    match ← json.fields? ["kind", "elements"] 0 with
    | [some kind, some (.list items)] =>
      return ⟨← Connective.ofJson? kind, ← items.mapM (elementWithin? steps)⟩
    | _ => none

/-- Reads an element whose containers are nested no deeper than `steps`. -/
def elementWithin? : Nat → Json → Option Element
  | steps, json => do
    match ← json.tagged? with
    | ("Criterion", criterion) => (Criterion.ofJson? criterion).map .leaf
    | ("Container", container) =>
      match steps with
      | 0 => none
      | steps + 1 => (within? steps container).map asElement
    | _ => none

end

/-- Reads a container. Its nesting is bounded by that of the JSON value. -/
def ofJson? (json : Json) : Option Container := within? json.depth json

end Container

end GraphSegments
