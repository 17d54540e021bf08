import GraphSegments.Criteria
import GraphSegments.Ontology

/-!
The normal form of criteria: no criterion is negated, expansions are spelled out, operands have the
shape that their comparators take, and no container stands around a single element.
-/

namespace GraphSegments

mutual

/-- Replaces every criterion of an element, from left to right, until one fails. -/
def Element.traverse (f : Criterion → Except Error Criterion) : Element → Except Error Element
  | .leaf criterion => do return .leaf (← f criterion)
  | .nested connective elements => do
    return .nested connective (← Element.traverseAll f elements)

/-- Replaces every criterion of a list of elements, from left to right, until one fails. -/
def Element.traverseAll (f : Criterion → Except Error Criterion) :
    List Element → Except Error (List Element)
  | [] => return []
  | element :: rest => do
    let element ← element.traverse f
    let rest ← Element.traverseAll f rest
    return element :: rest

end

/-- A container that holds nothing but a container gives way to it. -/
def Container.solePart (connective : Connective) : List Element → Container
  | [.nested inner elements] => ⟨inner, elements⟩
  | elements => ⟨connective, elements⟩

/-- An element of a container gives way to its only part. -/
def Element.soleElement (connective : Connective) : List Element → Element
  | [element] => element
  | elements => .nested connective elements

mutual

/-- Takes away containers that hold nothing but a container, inside out. -/
def Element.lift : Element → Element
  | .leaf criterion => .leaf criterion
  | .nested connective elements =>
    (Container.solePart connective (Element.liftAll elements)).asElement

def Element.liftAll : List Element → List Element
  | [] => []
  | element :: rest => element.lift :: Element.liftAll rest

end

mutual

/-- Takes away containers around a single element, inside out. -/
def Element.unwrap : Element → Element
  | .leaf criterion => .leaf criterion
  | .nested connective elements =>
    Element.soleElement connective (Element.unwrapAll elements)

def Element.unwrapAll : List Element → List Element
  | [] => []
  | element :: rest => element.unwrap :: Element.unwrapAll rest

end

namespace PropertyCriterion

/-- Whether a comparator goes with the cardinality of a registered property. -/
def checkCardinality (property : String) (definition : PropertyDef) (comparator : Comparator) :
    Except Error Unit :=
  let containment := comparator == .contains || comparator == .notContains
  if definition.multiValued then
    let inStrings := definition.kind == .string &&
      (comparator == .containsCaseInsensitive || comparator == .containsCaseSensitive)
    if containment || inStrings then .ok ()
    else .error (.query (.multiValuedComparator property))
  else if containment then .error (.query (.singleValuedComparator property))
  else .ok ()

/-- Whether the operand has the shape that the comparator takes. An operand that the comparator
does not take is let pass, unless it is a list. -/
def checkOperand (criterion : PropertyCriterion) : Except Error Unit :=
  match criterion.operand with
  | none =>
    if criterion.comparator.takesValue then
      .error (.query (.valueRequired criterion.comparator criterion.property))
    else .ok ()
  | some (.single _) =>
    if criterion.comparator.takesList then .error (.query .listRequired) else .ok ()
  | some (.list values) =>
    if criterion.comparator.takesList then
      if values.isEmpty then .error (.query .emptyList) else .ok ()
    else .error (.query (.singleValueRequired criterion.comparator))

/-- The criterion without its negation, under the name that rows have. -/
def resolve (registry : Registry) (criterion : PropertyCriterion) :
    Except Error PropertyCriterion := do
  let property :=
    if criterion.property = Vocabulary.uriPseudo then Vocabulary.uriProperty
    else criterion.property
  match registry.property? property with
  | some definition => checkCardinality property definition criterion.comparator
  | none => .ok ()
  let comparator ←
    if criterion.negated then
      match criterion.comparator.negated? with
      | some complement => .ok complement
      | none => .error (.query (.noComplement criterion.comparator))
    else .ok criterion.comparator
  let resolved :=
    { criterion with property := property, comparator := comparator, negated := false }
  checkOperand resolved
  return resolved

/-- Spells out the descendants of the property, if it has any. -/
def spellOut (registry : Registry) (criterion : PropertyCriterion) :
    Except Error PropertyCriterion :=
  if criterion.expand then
    match registry.property? criterion.property with
    | none => .error (.query (.unknownPropertyToExpand criterion.property))
    | some _ =>
      match registry.subproperties criterion.property true with
      | first :: second :: rest => .ok { criterion with expanded := first :: second :: rest }
      | _ => .ok criterion
  else .ok criterion

end PropertyCriterion

namespace TypeCriterion

/-- The criterion without its negation. -/
def resolve (criterion : TypeCriterion) : Except Error TypeCriterion :=
  if criterion.types.isEmpty then .error (.query .noTypes)
  else if !criterion.comparator.isMembership then
    .error (.query (.typeComparator criterion.comparator))
  else if criterion.negated then
    match criterion.comparator.negated? with
    | some complement => .ok { criterion with comparator := complement, negated := false }
    | none => .error (.query (.noComplement criterion.comparator))
  else .ok criterion

/-- Spells out the descendants of the type. -/
def spellOut (registry : Registry) (criterion : TypeCriterion) : Except Error TypeCriterion :=
  if criterion.expand then
    if criterion.comparator.takesList then .error (.query .expandsTypeList)
    else
      match criterion.types with
      | [type] =>
        match registry.class? type with
        | none => .error (.query (.unknownTypeToExpand type))
        | some _ =>
          match registry.subclasses type true with
          | first :: second :: rest =>
            .ok { criterion with
              expand := false
              comparator := if criterion.comparator = .ne then .noneOf else .oneOf
              types := first :: second :: rest }
          | _ => .ok { criterion with expand := false }
      | _ => .error (.query .expandsSeveralTypes)
  else .ok criterion

end TypeCriterion

namespace Criterion

def resolve (registry : Registry) : Criterion → Except Error Criterion
  | property criterion => do return property (← criterion.resolve registry)
  | type criterion => do return type (← criterion.resolve)

def spellOut (registry : Registry) : Criterion → Except Error Criterion
  | property criterion => do return property (← criterion.spellOut registry)
  | type criterion => do return type (← criterion.spellOut registry)

end Criterion

/-- Brings criteria into normal form. All criteria are resolved before any is spelled out. -/
def Container.normalize (registry : Registry) (container : Container) :
    Except Error Container := do
  let resolved ← Element.traverseAll (Criterion.resolve registry) container.elements
  let expanded ← Element.traverseAll (Criterion.spellOut registry) resolved
  let lifted := Container.solePart container.connective (Element.liftAll expanded)
  return { lifted with elements := Element.unwrapAll lifted.elements }

end GraphSegments
