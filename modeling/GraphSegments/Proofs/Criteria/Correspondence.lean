import GraphSegments.Proofs.Agreement
import GraphSegments.Proofs.Criteria.NormalForm

/-!
Trees of criteria that correspond to each other: they have the same containers and, in the same
places, related criteria. What brings criteria into normal form keeps the correspondence.
-/

namespace GraphSegments
open Results

mutual

/-- Elements of the same structure with related criteria. -/
def Element.Corresponds (related : Criterion → Criterion → Prop) : Element → Element → Prop
  | .leaf first, .leaf second => related first second
  | .nested connective elements, .nested other others =>
    connective = other ∧ Element.AllCorrespond related elements others
  | _, _ => False

def Element.AllCorrespond (related : Criterion → Criterion → Prop) :
    List Element → List Element → Prop
  | [], [] => True
  | first :: rest, second :: others =>
    first.Corresponds related second ∧ Element.AllCorrespond related rest others
  | _, _ => False

end

/-- Containers of the same structure with related criteria. -/
structure Container.Corresponds (related : Criterion → Criterion → Prop)
    (first second : Container) : Prop where
  connective : first.connective = second.connective
  elements : Element.AllCorrespond related first.elements second.elements

mutual

/-- The element with every criterion replaced. -/
def Element.replace (f : Criterion → Criterion) : Element → Element
  | .leaf criterion => .leaf (f criterion)
  | .nested connective elements => .nested connective (Element.replaceAll f elements)

def Element.replaceAll (f : Criterion → Criterion) : List Element → List Element
  | [] => []
  | element :: rest => element.replace f :: Element.replaceAll f rest

end

/-- The container with every criterion replaced. -/
def Container.replace (f : Criterion → Criterion) (container : Container) : Container :=
  ⟨container.connective, Element.replaceAll f container.elements⟩

namespace Element

variable {related further : Criterion → Criterion → Prop}

theorem AllCorrespond.isEmpty {elements others : List Element}
    (correspond : AllCorrespond related elements others) : elements.isEmpty = others.isEmpty := by
  cases elements <;> cases others <;> first | rfl | cases correspond

mutual

theorem corresponds_replace {p : Criterion → Prop} {f : Criterion → Criterion}
    (becomes : ∀ criterion, p criterion → related criterion (f criterion)) (element : Element)
    (every : element.Every p) : element.Corresponds related (element.replace f) := by
  match element with
  | .leaf criterion => exact becomes criterion every
  | .nested connective elements => exact ⟨rfl, allCorrespond_replaceAll becomes elements every⟩

theorem allCorrespond_replaceAll {p : Criterion → Prop} {f : Criterion → Criterion}
    (becomes : ∀ criterion, p criterion → related criterion (f criterion))
    (elements : List Element) (every : EveryAll p elements) :
    AllCorrespond related elements (replaceAll f elements) := by
  match elements with
  | [] => exact trivial
  | element :: rest =>
    exact ⟨corresponds_replace becomes element every.1,
      allCorrespond_replaceAll becomes rest every.2⟩

end

mutual

/-- Traversals whose steps agree on related criteria agree. -/
theorem Corresponds.traverse {f g : Criterion → Except Error Criterion}
    (steps : ∀ criterion other, related criterion other →
      Agree further (f criterion) (g other)) {element other : Element}
    (corresponds : element.Corresponds related other) :
    Agree (Corresponds further) (element.traverse f) (other.traverse g) := by
  match element, other with
  | .leaf criterion, .leaf other =>
    exact (steps criterion other corresponds).bind fun _ _ became => became
  | .nested connective elements, .nested _ others =>
    obtain ⟨rfl, correspond⟩ := corresponds
    exact (AllCorrespond.traverseAll steps correspond).bind fun _ _ became => ⟨rfl, became⟩
  | .leaf _, .nested _ _ | .nested _ _, .leaf _ => cases corresponds

theorem AllCorrespond.traverseAll {f g : Criterion → Except Error Criterion}
    (steps : ∀ criterion other, related criterion other →
      Agree further (f criterion) (g other)) {elements others : List Element}
    (correspond : AllCorrespond related elements others) :
    Agree (AllCorrespond further) (traverseAll f elements) (traverseAll g others) := by
  match elements, others with
  | [], [] => exact trivial
  | element :: rest, other :: others =>
    exact (Corresponds.traverse steps correspond.1).bind fun _ _ first =>
      (AllCorrespond.traverseAll steps correspond.2).bind fun _ _ later => ⟨first, later⟩
  | [], _ :: _ | _ :: _, [] => cases correspond

end

theorem AllCorrespond.solePart (connective : Connective) {elements others : List Element}
    (correspond : AllCorrespond related elements others) :
    (Container.solePart connective elements).Corresponds related
      (Container.solePart connective others) := by
  match elements, others with
  | [], [] | [.leaf _], [.leaf _] => exact ⟨rfl, correspond⟩
  | [.nested _ _], [.nested _ _] => exact ⟨correspond.1.1, correspond.1.2⟩
  | first :: _ :: _, second :: _ :: _ =>
    cases first <;> cases second <;> exact ⟨rfl, correspond⟩
  | [], _ :: _ | _ :: _, [] => cases correspond
  | [.leaf _], [.nested _ _] | [.nested _ _], [.leaf _] => exact correspond.1.elim
  | [_], _ :: _ :: _ | _ :: _ :: _, [_] => cases correspond.2

theorem AllCorrespond.soleElement (connective : Connective) {elements others : List Element}
    (correspond : AllCorrespond related elements others) :
    (Element.soleElement connective elements).Corresponds related
      (Element.soleElement connective others) := by
  match elements, others with
  | [], [] | _ :: _ :: _, _ :: _ :: _ => exact ⟨rfl, correspond⟩
  | [_], [_] => exact correspond.1
  | [], _ :: _ | _ :: _, [] => cases correspond
  | [_], _ :: _ :: _ | _ :: _ :: _, [_] => cases correspond.2

mutual

theorem Corresponds.lift {element other : Element}
    (corresponds : element.Corresponds related other) :
    element.lift.Corresponds related other.lift := by
  match element, other with
  | .leaf _, .leaf _ => exact corresponds
  | .nested connective elements, .nested _ others =>
    obtain ⟨rfl, correspond⟩ := corresponds
    obtain ⟨same, inner⟩ := (AllCorrespond.liftAll correspond).solePart connective
    exact ⟨same, inner⟩
  | .leaf _, .nested _ _ | .nested _ _, .leaf _ => cases corresponds

theorem AllCorrespond.liftAll {elements others : List Element}
    (correspond : AllCorrespond related elements others) :
    AllCorrespond related (liftAll elements) (liftAll others) := by
  match elements, others with
  | [], [] => exact trivial
  | element :: rest, other :: others =>
    exact ⟨Corresponds.lift correspond.1, AllCorrespond.liftAll correspond.2⟩
  | [], _ :: _ | _ :: _, [] => cases correspond

end

mutual

theorem Corresponds.unwrap {element other : Element}
    (corresponds : element.Corresponds related other) :
    element.unwrap.Corresponds related other.unwrap := by
  match element, other with
  | .leaf _, .leaf _ => exact corresponds
  | .nested connective elements, .nested _ others =>
    obtain ⟨rfl, correspond⟩ := corresponds
    exact (AllCorrespond.unwrapAll correspond).soleElement connective
  | .leaf _, .nested _ _ | .nested _ _, .leaf _ => cases corresponds

theorem AllCorrespond.unwrapAll {elements others : List Element}
    (correspond : AllCorrespond related elements others) :
    AllCorrespond related (unwrapAll elements) (unwrapAll others) := by
  match elements, others with
  | [], [] => exact trivial
  | element :: rest, other :: others =>
    exact ⟨Corresponds.unwrap correspond.1, AllCorrespond.unwrapAll correspond.2⟩
  | [], _ :: _ | _ :: _, [] => cases correspond

end

end Element

/-- Containers that correspond have normal forms that correspond, or none, if that holds of their
criteria in both passes. -/
theorem Container.Corresponds.normalize {registry : Registry}
    {related resolved spelled : Criterion → Criterion → Prop}
    (resolve : ∀ criterion other, related criterion other →
      Agree resolved (criterion.resolve registry) (other.resolve registry))
    (spellOut : ∀ criterion other, resolved criterion other →
      Agree spelled (criterion.spellOut registry) (other.spellOut registry))
    {first second : Container} (corresponds : first.Corresponds related second) :
    Agree (Corresponds spelled) (first.normalize registry) (second.normalize registry) := by
  obtain ⟨connective, elements⟩ := first
  obtain ⟨_, others⟩ := second
  obtain ⟨rfl, correspond⟩ := corresponds
  refine (correspond.traverseAll resolve).bind fun _ _ became => ?_
  refine (became.traverseAll spellOut).bind fun _ _ expanded => ?_
  obtain ⟨same, lifted⟩ := expanded.liftAll.solePart connective
  exact ⟨same, lifted.unwrapAll⟩

end GraphSegments
