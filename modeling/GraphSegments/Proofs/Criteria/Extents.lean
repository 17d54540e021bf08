import GraphSegments.Proofs.Criteria.NormalForm
import Mathlib.Data.Set.Basic

/-!
The set of objects that a tree of criteria denotes among all objects, given the sets that single
criteria denote: AND is the intersection and OR the union, so AND of nothing is all objects and OR
of nothing is none. Taking away containers leaves it the same, at every depth.
-/

namespace GraphSegments
open Results

section

variable (all : Set String) (leaf : Criterion → Set String)

mutual

/-- The objects that an element denotes. -/
def Element.extent : Element → Set String
  | .leaf criterion => all ∩ leaf criterion
  | .nested .and elements => Element.meet elements
  | .nested .or elements => Element.join elements

/-- The objects that all elements denote. -/
def Element.meet : List Element → Set String
  | [] => all
  | element :: rest => element.extent ∩ Element.meet rest

/-- The objects that one of the elements denotes. -/
def Element.join : List Element → Set String
  | [] => ∅
  | element :: rest => element.extent ∪ Element.join rest

end

/-- The objects that a container denotes. -/
def Container.extent (container : Container) : Set String :=
  container.asElement.extent all leaf

end

namespace Element

variable {all : Set String} {leaf : Criterion → Set String}

/-- What elements denote together depends on what each of them denotes. -/
theorem extent_nested_congr {connective : Connective} {left right : List Element}
    (meets : meet all leaf left = meet all leaf right)
    (joins : join all leaf left = join all leaf right) :
    (nested connective left).extent all leaf =
      (nested connective right).extent all leaf := by
  cases connective with
  | and => rwa [extent, extent]
  | or => rwa [extent, extent]

mutual

theorem extent_subset (element : Element) : element.extent all leaf ⊆ all := by
  match element with
  | .leaf criterion => exact Set.inter_subset_left
  | .nested .and elements => exact meet_subset elements
  | .nested .or elements => exact join_subset elements

theorem meet_subset (elements : List Element) : meet all leaf elements ⊆ all := by
  match elements with
  | [] => exact Set.Subset.rfl
  | element :: rest => exact Set.inter_subset_right.trans (meet_subset rest)

theorem join_subset (elements : List Element) : join all leaf elements ⊆ all := by
  match elements with
  | [] => exact Set.empty_subset all
  | element :: rest => exact Set.union_subset (extent_subset element) (join_subset rest)

end

/-- A container around a single element denotes what the element does. -/
theorem extent_nested_singleton (connective : Connective) (element : Element) :
    (nested connective [element]).extent all leaf = element.extent all leaf := by
  cases connective with
  | and =>
    rw [extent, meet, meet]
    exact Set.inter_eq_left.2 (extent_subset element)
  | or => rw [extent, join, join, Set.union_empty]

theorem extent_solePart (connective : Connective) (elements : List Element) :
    (Container.solePart connective elements).extent all leaf =
      (nested connective elements).extent all leaf := by
  unfold Container.solePart
  split
  next inner elements => exact (extent_nested_singleton connective _).symm
  next => rfl

theorem extent_soleElement (connective : Connective) (elements : List Element) :
    (soleElement connective elements).extent all leaf =
      (nested connective elements).extent all leaf := by
  unfold soleElement
  split
  next element => exact (extent_nested_singleton connective element).symm
  next => rfl

mutual

theorem extent_lift (element : Element) :
    element.lift.extent all leaf = element.extent all leaf := by
  match element with
  | .leaf criterion => rfl
  | .nested connective elements =>
    obtain ⟨meets, joins⟩ := extent_liftAll elements
    calc (nested connective elements).lift.extent all leaf
        = (nested connective (liftAll elements)).extent all leaf :=
          extent_solePart connective (liftAll elements)
      _ = (nested connective elements).extent all leaf :=
          extent_nested_congr meets joins

theorem extent_liftAll (elements : List Element) :
    meet all leaf (liftAll elements) = meet all leaf elements ∧
      join all leaf (liftAll elements) = join all leaf elements := by
  match elements with
  | [] => exact ⟨rfl, rfl⟩
  | element :: rest =>
    obtain ⟨meets, joins⟩ := extent_liftAll rest
    rw [liftAll, meet, meet, join, join, extent_lift element, meets, joins]
    exact ⟨rfl, rfl⟩

end

mutual

theorem extent_unwrap (element : Element) :
    element.unwrap.extent all leaf = element.extent all leaf := by
  match element with
  | .leaf criterion => rfl
  | .nested connective elements =>
    obtain ⟨meets, joins⟩ := extent_unwrapAll elements
    calc (nested connective elements).unwrap.extent all leaf
        = (nested connective (unwrapAll elements)).extent all leaf :=
          extent_soleElement connective (unwrapAll elements)
      _ = (nested connective elements).extent all leaf :=
          extent_nested_congr meets joins

theorem extent_unwrapAll (elements : List Element) :
    meet all leaf (unwrapAll elements) = meet all leaf elements ∧
      join all leaf (unwrapAll elements) = join all leaf elements := by
  match elements with
  | [] => exact ⟨rfl, rfl⟩
  | element :: rest =>
    obtain ⟨meets, joins⟩ := extent_unwrapAll rest
    rw [unwrapAll, meet, meet, join, join, extent_unwrap element, meets, joins]
    exact ⟨rfl, rfl⟩

end

variable {other : Criterion → Set String} {p : Criterion → Prop}
  {f : Criterion → Except Error Criterion}

mutual

/-- If every criterion is replaced by one that denotes the same, a traversal does not change what is
denoted. -/
theorem extent_traverse
    (same : ∀ criterion replaced, p criterion → f criterion = .ok replaced →
      other replaced = leaf criterion)
    (element : Element) {traversed : Element} (every : element.Every p)
    (ran : element.traverse f = .ok traversed) :
    traversed.extent all other = element.extent all leaf := by
  match element with
  | .leaf criterion =>
    obtain ⟨replaced, became, made⟩ := bind_eq_ok.1 ran
    obtain rfl := Except.ok.inj made
    exact congrArg (all ∩ ·) (same criterion replaced every became)
  | .nested connective elements =>
    obtain ⟨parts, became, made⟩ := bind_eq_ok.1 ran
    obtain rfl := Except.ok.inj made
    obtain ⟨meets, joins⟩ := extent_traverseAll same elements every became
    cases connective with
    | and => rwa [extent, extent]
    | or => rwa [extent, extent]

theorem extent_traverseAll
    (same : ∀ criterion replaced, p criterion → f criterion = .ok replaced →
      other replaced = leaf criterion)
    (elements : List Element) {traversed : List Element}
    (every : EveryAll p elements) (ran : traverseAll f elements = .ok traversed) :
    meet all other traversed = meet all leaf elements ∧
      join all other traversed = join all leaf elements := by
  match elements with
  | [] =>
    obtain rfl := Except.ok.inj ran
    exact ⟨rfl, rfl⟩
  | element :: rest =>
    obtain ⟨head, first, ran⟩ := bind_eq_ok.1 ran
    obtain ⟨tail, later, made⟩ := bind_eq_ok.1 ran
    obtain rfl := Except.ok.inj made
    obtain ⟨meets, joins⟩ := extent_traverseAll same rest every.2 later
    rw [meet, meet, join, join, extent_traverse same element every.1 first, meets, joins]
    exact ⟨rfl, rfl⟩

end

end Element

end GraphSegments
