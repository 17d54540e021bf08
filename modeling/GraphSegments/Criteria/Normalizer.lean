import GraphSegments.Criteria.NormalForm

/-!
A normalizer brings one tree of criteria after the other into normal form. It remembers the
descendants of classes and properties that it has looked up, over all of its trees.
-/

namespace GraphSegments

/-- What stands under a key, or else what a look-up gives, which stands there from then on. -/
def Dictionary.recall {α : Type} (known : Dictionary α) (key : String)
    (lookUp : Except Error α) : Except Error α × Dictionary α :=
  match known.find? key with
  | some value => (.ok value, known)
  | none =>
    match lookUp with
    | .error error => (.error error, known)
    | .ok value => (.ok value, known.insert key value)

namespace Registry

/-- A registered class and its descendants. -/
def classesBelow (registry : Registry) (type : String) : Except Error (List String) :=
  match registry.class? type with
  | none => .error (.query (.unknownTypeToExpand type))
  | some _ => .ok (registry.subclasses type true)

/-- A registered property and its descendants. -/
def propertiesBelow (registry : Registry) (property : String) : Except Error (List String) :=
  match registry.property? property with
  | none => .error (.query (.unknownPropertyToExpand property))
  | some _ => .ok (registry.subproperties property true)

end Registry

/-- A registry, and the descendants that have been looked up in it. -/
structure Normalizer where
  registry : Registry
  classes : Dictionary (List String)
  properties : Dictionary (List String)

/-- A step of a normalizer. One that fails leaves what has been looked up before. -/
abbrev Normalizing := ExceptT Error (StateM Normalizer)

namespace Normalizer

/-- A normalizer that has not looked up anything. -/
def fresh (registry : Registry) : Normalizer := ⟨registry, ∅, ∅⟩

/-- The class and its descendants. -/
def classesBelow (type : String) : Normalizing (List String) :=
  fun normalizer =>
    let (found, known) := normalizer.classes.recall type (normalizer.registry.classesBelow type)
    (found, { normalizer with classes := known })

/-- The property and its descendants. -/
def propertiesBelow (property : String) : Normalizing (List String) :=
  fun normalizer =>
    let (found, known) :=
      normalizer.properties.recall property (normalizer.registry.propertiesBelow property)
    (found, { normalizer with properties := known })

end Normalizer

/-- The criterion that compares the classes found below its type, if there are others. -/
def TypeCriterion.spelled (criterion : TypeCriterion) : List String → TypeCriterion
  | first :: second :: rest =>
    { criterion with
      expand := false
      comparator := if criterion.comparator = .ne then .noneOf else .oneOf
      types := first :: second :: rest }
  | _ => { criterion with expand := false }

/-- The criterion that compares the properties found below its own, if there are others. -/
def PropertyCriterion.spelled (criterion : PropertyCriterion) : List String → PropertyCriterion
  | first :: second :: rest => { criterion with expanded := first :: second :: rest }
  | _ => criterion

namespace Normalizer

/-- Spells out the descendants of the type. -/
def spellOutType (criterion : TypeCriterion) : Normalizing TypeCriterion :=
  if criterion.expand then
    if criterion.comparator.takesList then throw (.query .expandsTypeList)
    else
      match criterion.types with
      | [type] => return criterion.spelled (← classesBelow type)
      | _ => throw (.query .expandsSeveralTypes)
  else return criterion

/-- Spells out the descendants of the property, if it has any. -/
def spellOutProperty (criterion : PropertyCriterion) : Normalizing PropertyCriterion :=
  if criterion.expand then return criterion.spelled (← propertiesBelow criterion.property)
  else return criterion

def spellOut : Criterion → Normalizing Criterion
  | .property criterion => return .property (← spellOutProperty criterion)
  | .type criterion => return .type (← spellOutType criterion)

mutual

/-- Spells out the criteria of an element, from left to right. -/
def spellOutElement : Element → Normalizing Element
  | .leaf criterion => return .leaf (← spellOut criterion)
  | .nested connective elements => return .nested connective (← spellOutAll elements)

/-- Spells out the criteria of a list of elements, from left to right. -/
def spellOutAll : List Element → Normalizing (List Element)
  | [] => return []
  | element :: rest => do
    let element ← spellOutElement element
    let rest ← spellOutAll rest
    return element :: rest

end

/-- Brings criteria into normal form. -/
def normal (container : Container) : Normalizing Container := do
  let registry := (← get).registry
  let resolved ← ExceptT.mk
    (pure (Element.traverseAll (Criterion.resolve registry) container.elements))
  let expanded ← spellOutAll resolved
  let lifted := Container.solePart container.connective (Element.liftAll expanded)
  return { lifted with elements := Element.unwrapAll lifted.elements }

/-- Brings criteria into normal form, and gives the normalizer as it is after that. -/
def normalize (normalizer : Normalizer) (container : Container) :
    Except Error Container × Normalizer :=
  (normal container).run.run normalizer

/-- The normalizer after several trees of criteria, whether they have a normal form or not. -/
def afterAll (normalizer : Normalizer) (containers : List Container) : Normalizer :=
  containers.foldl (fun normalizer container => (normalizer.normalize container).2) normalizer

end Normalizer

end GraphSegments
