import GraphSegments.Criteria.NormalForm
import GraphSegments.Proofs.Results

/-!
What can be relied on once criteria are in normal form: nothing is negated, operands fit their
comparators, and type criteria name types and compare them by membership.
-/

namespace GraphSegments
open Results

/-- The form of a criterion that no search has to look at twice. -/
structure PropertyCriterion.IsNormal (criterion : PropertyCriterion) : Prop where
  affirmed : criterion.negated = false
  operand : criterion.checkOperand = .ok ()

structure TypeCriterion.IsNormal (criterion : TypeCriterion) : Prop where
  affirmed : criterion.negated = false
  membership : criterion.comparator.isMembership = true
  named : criterion.types ≠ []

def Criterion.IsNormal : Criterion → Prop
  | property criterion => criterion.IsNormal
  | type criterion => criterion.IsNormal

/-- The comparator that is meant: where it is negated its complement, if it has one. -/
def Comparator.meant (comparator : Comparator) (negated : Bool) : Comparator :=
  if negated then comparator.negated?.getD comparator else comparator

/-- The criterion without negation that means the same, on the property that rows have. -/
def PropertyCriterion.affirmed (criterion : PropertyCriterion) : PropertyCriterion :=
  { criterion with
    property :=
      if criterion.property = Vocabulary.uriPseudo then Vocabulary.uriProperty
      else criterion.property
    comparator := criterion.comparator.meant criterion.negated
    negated := false }

/-- The criterion without negation that means the same. -/
def TypeCriterion.affirmed (criterion : TypeCriterion) : TypeCriterion :=
  { criterion with comparator := criterion.comparator.meant criterion.negated, negated := false }

def Criterion.affirmed : Criterion → Criterion
  | property criterion => property criterion.affirmed
  | type criterion => type criterion.affirmed

mutual

/-- Whether all criteria of an element have a property. -/
def Element.Every (p : Criterion → Prop) : Element → Prop
  | .leaf criterion => p criterion
  | .nested _ elements => Element.EveryAll p elements

/-- Whether all criteria of a list of elements have a property. -/
def Element.EveryAll (p : Criterion → Prop) : List Element → Prop
  | [] => True
  | element :: rest => element.Every p ∧ Element.EveryAll p rest

end

/-- Whether all criteria of a container, at any depth, have a property. -/
def Container.Every (p : Criterion → Prop) (container : Container) : Prop :=
  Element.EveryAll p container.elements

/-- An operand that passes the check is a value, or some values, where one is taken. -/
theorem PropertyCriterion.IsNormal.values {criterion : PropertyCriterion}
    (normal : criterion.IsNormal) (takes : criterion.comparator.takesValue = true) :
    if criterion.comparator.takesList then criterion.values ≠ []
    else ∃ value, criterion.values = [value] := by
  have passed := normal.operand
  unfold checkOperand at passed
  unfold PropertyCriterion.values
  match operand : criterion.operand with
  | none => simp [operand, takes] at passed
  | some (.single value) =>
    cases list : criterion.comparator.takesList with
    | true => simp [operand, list] at passed
    | false => simp [Operand.values]
  | some (.list values) =>
    cases list : criterion.comparator.takesList with
    | true => simpa [operand, list, Operand.values] using passed
    | false => simp [operand, list] at passed

namespace Element

mutual

theorem Every.and {p q : Criterion → Prop} (element : Element) (left : element.Every p)
    (right : element.Every q) : element.Every fun criterion => p criterion ∧ q criterion := by
  match element with
  | .leaf criterion => exact ⟨left, right⟩
  | .nested connective elements => exact EveryAll.and elements left right

theorem EveryAll.and {p q : Criterion → Prop} (elements : List Element)
    (left : EveryAll p elements) (right : EveryAll q elements) :
    EveryAll (fun criterion => p criterion ∧ q criterion) elements := by
  match elements with
  | [] => exact trivial
  | element :: rest =>
    exact ⟨Every.and element left.1 right.1, EveryAll.and rest left.2 right.2⟩

end

theorem everyAll_leaves {p : Criterion → Prop} {criteria : List Criterion} :
    EveryAll p (criteria.map .leaf) ↔ ∀ criterion ∈ criteria, p criterion := by
  induction criteria with
  | nil => simp [EveryAll]
  | cons criterion rest ih => simp [EveryAll, Every, ih]

theorem EveryAll.of_leaf_mem {p : Criterion → Prop} {elements : List Element}
    {criterion : Criterion}
    (every : EveryAll p elements) (member : .leaf criterion ∈ elements) : p criterion := by
  induction elements with
  | nil => exact absurd member List.not_mem_nil
  | cons element rest ih =>
    rcases List.mem_cons.1 member with rfl | later
    · exact every.1
    · exact ih every.2 later

mutual

/-- What a traversal makes of every criterion holds of all criteria of its result. -/
theorem every_traverse {p q : Criterion → Prop} {f : Criterion → Except Error Criterion}
    (replaces : ∀ criterion replaced, p criterion → f criterion = .ok replaced → q replaced)
    (element : Element) {traversed : Element} (every : element.Every p)
    (ran : element.traverse f = .ok traversed) : traversed.Every q := by
  match element with
  | .leaf criterion =>
    obtain ⟨replaced, became, same⟩ := bind_eq_ok.1 ran
    obtain rfl := Except.ok.inj same
    exact replaces criterion replaced every became
  | .nested connective elements =>
    obtain ⟨parts, became, same⟩ := bind_eq_ok.1 ran
    obtain rfl := Except.ok.inj same
    exact everyAll_traverseAll replaces elements every became

theorem everyAll_traverseAll {p q : Criterion → Prop} {f : Criterion → Except Error Criterion}
    (replaces : ∀ criterion replaced, p criterion → f criterion = .ok replaced → q replaced)
    (elements : List Element) {traversed : List Element} (every : EveryAll p elements)
    (ran : traverseAll f elements = .ok traversed) : EveryAll q traversed := by
  match elements with
  | [] =>
    obtain rfl := Except.ok.inj ran
    exact trivial
  | element :: rest =>
    obtain ⟨head, first, ran⟩ := bind_eq_ok.1 ran
    obtain ⟨tail, others, same⟩ := bind_eq_ok.1 ran
    obtain rfl := Except.ok.inj same
    exact ⟨every_traverse replaces element every.1 first,
      everyAll_traverseAll replaces rest every.2 others⟩

end

/-! Taking containers away neither adds criteria nor changes them. -/

variable {p : Criterion → Prop}

theorem everyAll_solePart (connective : Connective) {elements : List Element}
    (every : EveryAll p elements) : (Container.solePart connective elements).Every p := by
  unfold Container.solePart
  split
  next => exact every.1
  next => exact every

theorem every_soleElement (connective : Connective) {elements : List Element}
    (every : EveryAll p elements) : (soleElement connective elements).Every p := by
  unfold soleElement
  split
  next => exact every.1
  next => exact every

mutual

theorem every_lift (element : Element) (every : element.Every p) : element.lift.Every p := by
  match element with
  | .leaf criterion => exact every
  | .nested connective elements =>
    exact everyAll_solePart connective (everyAll_liftAll elements every)

theorem everyAll_liftAll (elements : List Element) (every : EveryAll p elements) :
    EveryAll p (liftAll elements) := by
  match elements with
  | [] => exact trivial
  | element :: rest => exact ⟨every_lift element every.1, everyAll_liftAll rest every.2⟩

end

mutual

theorem every_unwrap (element : Element) (every : element.Every p) : element.unwrap.Every p := by
  match element with
  | .leaf criterion => exact every
  | .nested connective elements =>
    exact every_soleElement connective (everyAll_unwrapAll elements every)

theorem everyAll_unwrapAll (elements : List Element) (every : EveryAll p elements) :
    EveryAll p (unwrapAll elements) := by
  match elements with
  | [] => exact trivial
  | element :: rest => exact ⟨every_unwrap element every.1, everyAll_unwrapAll rest every.2⟩

end

mutual

theorem every_of_forall (all : ∀ criterion, p criterion) (element : Element) :
    element.Every p := by
  match element with
  | .leaf criterion => exact all criterion
  | .nested connective elements => exact everyAll_of_forall all elements

theorem everyAll_of_forall (all : ∀ criterion, p criterion) (elements : List Element) :
    EveryAll p elements := by
  match elements with
  | [] => exact trivial
  | element :: rest => exact ⟨every_of_forall all element, everyAll_of_forall all rest⟩

end

end Element

/-! The two passes over the criteria leave nothing but normal ones. The first one only takes away
negation, the second one only spells out expansions. -/

theorem PropertyCriterion.affirmed_of_resolve {registry : Registry}
    {criterion resolved : PropertyCriterion} (ran : criterion.resolve registry = .ok resolved) :
    resolved = criterion.affirmed ∧ resolved.IsNormal := by
  have settled {chosen : Except Error Comparator}
      (meant : ∀ comparator, chosen = .ok comparator →
        comparator = criterion.comparator.meant criterion.negated)
      (ran : (do
        let comparator ← chosen
        let resolved := { criterion with
          property :=
            if criterion.property = Vocabulary.uriPseudo then Vocabulary.uriProperty
            else criterion.property
          comparator := comparator
          negated := false }
        checkOperand resolved
        return resolved) = .ok resolved) :
      resolved = criterion.affirmed ∧ resolved.IsNormal := by
    obtain ⟨comparator, chose, checked⟩ := bind_eq_ok.1 ran
    obtain ⟨_, passed, made⟩ := bind_eq_ok.1 checked
    obtain rfl := meant comparator chose
    obtain rfl := Except.ok.inj made
    exact ⟨rfl, rfl, passed⟩
  unfold resolve at ran
  dsimp only at ran
  split at ran
  all_goals
    obtain ⟨_, -, rest⟩ := bind_eq_ok.1 ran
    split at rest
    next negated =>
      split at rest
      next complement found =>
        refine settled (fun comparator same => ?_) rest
        rw [Comparator.meant, if_pos negated, found, ← Except.ok.inj same, Option.getD_some]
      next => exact settled (fun comparator same => by cases same) rest
    next affirmed =>
      refine settled (fun comparator same => ?_) rest
      rw [Comparator.meant, if_neg affirmed, ← Except.ok.inj same]

theorem PropertyCriterion.normal_spellOut {registry : Registry}
    {criterion spelled : PropertyCriterion} (normal : criterion.IsNormal)
    (ran : criterion.spellOut registry = .ok spelled) : spelled.IsNormal := by
  unfold spellOut at ran
  split at ran
  next =>
    split at ran
    next => exact absurd ran (by simp)
    next =>
      split at ran
      next =>
        obtain rfl := Except.ok.inj ran
        exact ⟨normal.affirmed, normal.operand⟩
      next => exact Except.ok.inj ran ▸ normal
  next => exact Except.ok.inj ran ▸ normal

theorem Comparator.isMembership_of_negated? {comparator complement : Comparator}
    (membership : comparator.isMembership = true)
    (negation : comparator.negated? = some complement) : complement.isMembership = true := by
  cases comparator <;> simp [isMembership, negated?] at * <;> subst negation <;> rfl

theorem TypeCriterion.affirmed_of_resolve {criterion resolved : TypeCriterion}
    (ran : criterion.resolve = .ok resolved) :
    resolved = criterion.affirmed ∧ resolved.IsNormal := by
  unfold resolve at ran
  unfold affirmed Comparator.meant
  split at ran
  next => exact absurd ran (by simp)
  next named =>
    split at ran
    next => exact absurd ran (by simp)
    next membership =>
      have named : criterion.types ≠ [] := by simpa using named
      have membership : criterion.comparator.isMembership = true := by simpa using membership
      split at ran
      next negated =>
        split at ran
        next complement negation =>
          obtain rfl := Except.ok.inj ran
          rw [if_pos negated, negation, Option.getD_some]
          exact ⟨rfl, rfl, Comparator.isMembership_of_negated? membership negation, named⟩
        next => exact absurd ran (by simp)
      next affirmed =>
        obtain rfl := Except.ok.inj ran
        have positive : criterion.negated = false := by simpa using affirmed
        rw [if_neg affirmed, ← positive]
        exact ⟨rfl, positive, membership, named⟩

theorem TypeCriterion.normal_spellOut {registry : Registry} {criterion spelled : TypeCriterion}
    (normal : criterion.IsNormal) (ran : criterion.spellOut registry = .ok spelled) :
    spelled.IsNormal := by
  unfold spellOut at ran
  split at ran
  next =>
    split at ran
    next => exact absurd ran (by simp)
    next =>
      split at ran
      next =>
        split at ran
        next => exact absurd ran (by simp)
        next =>
          split at ran
          next =>
            obtain rfl := Except.ok.inj ran
            exact ⟨normal.affirmed, by dsimp only; split <;> rfl, List.cons_ne_nil _ _⟩
          next =>
            obtain rfl := Except.ok.inj ran
            exact ⟨normal.affirmed, normal.membership, normal.named⟩
      next => exact absurd ran (by simp)
  next => exact Except.ok.inj ran ▸ normal

theorem Criterion.affirmed_of_resolve {registry : Registry} {criterion resolved : Criterion}
    (ran : criterion.resolve registry = .ok resolved) :
    resolved = criterion.affirmed ∧ resolved.IsNormal := by
  cases criterion with
  | property criterion =>
    obtain ⟨inner, resolves, same⟩ := bind_eq_ok.1 ran
    obtain rfl := Except.ok.inj same
    obtain ⟨rfl, normal⟩ := PropertyCriterion.affirmed_of_resolve resolves
    exact ⟨rfl, normal⟩
  | type criterion =>
    obtain ⟨inner, resolves, same⟩ := bind_eq_ok.1 ran
    obtain rfl := Except.ok.inj same
    obtain ⟨rfl, normal⟩ := TypeCriterion.affirmed_of_resolve resolves
    exact ⟨rfl, normal⟩

theorem Criterion.normal_spellOut {registry : Registry} {criterion spelled : Criterion}
    (normal : criterion.IsNormal) (ran : criterion.spellOut registry = .ok spelled) :
    spelled.IsNormal := by
  cases criterion with
  | property criterion =>
    obtain ⟨inner, ran, same⟩ := bind_eq_ok.1 ran
    exact Except.ok.inj same ▸ PropertyCriterion.normal_spellOut normal ran
  | type criterion =>
    obtain ⟨inner, ran, same⟩ := bind_eq_ok.1 ran
    exact Except.ok.inj same ▸ TypeCriterion.normal_spellOut normal ran

/-- Every criterion of a container in normal form is normal. -/
theorem Container.normal_of_normalize {registry : Registry} {raw container : Container}
    (ran : raw.normalize registry = .ok container) : container.Every Criterion.IsNormal := by
  obtain ⟨resolved, first, ran⟩ := bind_eq_ok.1 ran
  obtain ⟨expanded, second, same⟩ := bind_eq_ok.1 ran
  obtain rfl := Except.ok.inj same
  have start : Element.EveryAll (fun _ => True) raw.elements :=
    Element.everyAll_of_forall (fun _ => trivial) raw.elements
  have normal : Element.EveryAll Criterion.IsNormal resolved :=
    Element.everyAll_traverseAll (fun _ _ _ ran => (Criterion.affirmed_of_resolve ran).2) _ start first
  have spelled : Element.EveryAll Criterion.IsNormal expanded :=
    Element.everyAll_traverseAll (fun _ _ => Criterion.normal_spellOut) _ normal second
  exact Element.everyAll_unwrapAll _
    (Element.everyAll_solePart raw.connective (Element.everyAll_liftAll expanded spelled))

end GraphSegments
