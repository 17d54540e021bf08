import GraphSegments.Proofs.Criteria.NormalForm

/-!
The normal form of criteria, as it can be read off them, and that it is one: criteria in normal form
have themselves as normal form. Containers are taken away inside out in two passes; after the
first none holds nothing but a container, after the second none within another holds a single
element.
-/

namespace GraphSegments
open Results

/-- A criterion that says what it compares: it is not negated, names its property as rows do, and
its operand is what its comparator takes. -/
structure PropertyCriterion.IsResolved (criterion : PropertyCriterion) : Prop where
  affirmed : criterion.negated = false
  named : criterion.property ≠ Vocabulary.uriPseudo
  list : criterion.comparator.takesList = true →
    ∃ values, values ≠ [] ∧ criterion.operand = some (.list values)
  single : criterion.comparator.takesValue = true → criterion.comparator.takesList = false →
    ∃ value, criterion.operand = some (.single value)

/-- A criterion that names all types that it compares. -/
structure TypeCriterion.IsResolved (criterion : TypeCriterion) : Prop extends
    criterion.IsNormal where
  spelledOut : criterion.expand = false

def Criterion.IsResolved : Criterion → Prop
  | property criterion => criterion.IsResolved
  | type criterion => criterion.IsResolved

mutual

/-- Whether no container in an element, nor the element itself, holds a single element. -/
def Element.Branches : Element → Prop
  | .leaf _ => True
  | .nested _ elements => elements.length ≠ 1 ∧ Element.BranchAll elements

def Element.BranchAll : List Element → Prop
  | [] => True
  | element :: rest => element.Branches ∧ Element.BranchAll rest

end

/-- The normal form of criteria. -/
structure Container.InNormalForm (container : Container) : Prop where
  resolved : container.Every Criterion.IsResolved
  branching : Element.BranchAll container.elements
  root : ∀ connective elements, container.elements ≠ [.nested connective elements]

/-! What a criterion becomes is resolved, and stays as it is when it is looked at again. -/

namespace Comparator

theorem takesValue_of_takesList {comparator : Comparator} (list : comparator.takesList = true) :
    comparator.takesValue = true := by
  cases comparator <;> simp_all [takesList, takesValue]

/-- A property is compared with a single value or with several, and so with the complement. -/
theorem isContainment_of_negated? {comparator complement : Comparator}
    (negation : comparator.negated? = some complement) :
    (complement == contains || complement == notContains) =
      (comparator == contains || comparator == notContains) := by
  cases comparator <;> simp [negated?] at negation <;> subst negation <;> rfl

/-- The comparators that look into texts, whatever the letter case, have no complement. -/
theorem negated?_ne_of_inTexts {comparator complement : Comparator}
    (negation : comparator.negated? = some complement) :
    (comparator == containsCaseInsensitive || comparator == containsCaseSensitive) = false ∧
      (complement == containsCaseInsensitive || complement == containsCaseSensitive) = false := by
  cases comparator <;> simp [negated?] at negation <;> subst negation <;> exact ⟨rfl, rfl⟩

end Comparator

namespace PropertyCriterion

/-- A comparator goes with the cardinality of a property as its complement does. -/
theorem checkCardinality_of_negated? {comparator complement : Comparator}
    (negation : comparator.negated? = some complement) (property : String)
    (definition : PropertyDef) :
    checkCardinality property definition complement =
      checkCardinality property definition comparator := by
  obtain ⟨inTexts, inTexts'⟩ := Comparator.negated?_ne_of_inTexts negation
  simp only [checkCardinality, Comparator.isContainment_of_negated? negation, inTexts, inTexts']

/-- What the registry has to say about comparing a property. -/
def admission (registry : Registry) (property : String) (comparator : Comparator) :
    Except Error Unit :=
  match registry.property? property with
  | some definition => checkCardinality property definition comparator
  | none => .ok ()

theorem admission_meant_eq_ok {registry : Registry} {property : String} {comparator : Comparator}
    {negated : Bool} :
    admission registry property (comparator.meant negated) = .ok () ↔
      admission registry property comparator = .ok () := by
  unfold admission Comparator.meant
  split
  next definition _ =>
    cases negated with
    | false => rfl
    | true =>
      cases negation : comparator.negated? with
      | none => rfl
      | some complement =>
        rw [if_pos rfl, Option.getD_some, checkCardinality_of_negated? negation]
  next => rfl

/-- The comparator that is meant, where there is one. -/
def complement (criterion : PropertyCriterion) : Except Error Comparator :=
  if criterion.negated then
    match criterion.comparator.negated? with
    | some complement => .ok complement
    | none => .error (.query (.noComplement criterion.comparator))
  else .ok criterion.comparator

theorem complement_eq_ok {criterion : PropertyCriterion} {comparator : Comparator} :
    criterion.complement = .ok comparator ↔
      criterion.comparator.meant criterion.negated = comparator ∧
        (criterion.negated = true → criterion.comparator.negated?.isSome = true) := by
  unfold complement Comparator.meant
  cases criterion.negated with
  | false => simp
  | true => cases criterion.comparator.negated? <;> simp

/-- A criterion is checked against the registry, loses its negation, and has its operand checked,
in that order. -/
theorem resolve_eq (registry : Registry) (criterion : PropertyCriterion) :
    criterion.resolve registry = do
      admission registry criterion.affirmed.property criterion.comparator
      let comparator ← criterion.complement
      let resolved := { criterion.affirmed with comparator := comparator }
      checkOperand resolved
      return resolved := by
  have named : (if criterion.property = Vocabulary.uriPseudo then Vocabulary.uriProperty
      else criterion.property) = criterion.affirmed.property := rfl
  unfold resolve complement admission
  dsimp only
  rw [named]
  cases registry.property? criterion.affirmed.property <;> cases criterion.negated <;>
    cases criterion.comparator.negated? <;> rfl

/-- A criterion is resolved into its affirmation, if the registry admits the comparison, a negated
comparator has a complement, and the operand fits. -/
theorem resolve_eq_ok {registry : Registry} {criterion resolved : PropertyCriterion} :
    criterion.resolve registry = .ok resolved ↔
      criterion.affirmed = resolved ∧
        admission registry criterion.affirmed.property criterion.comparator = .ok () ∧
        (criterion.negated = true → criterion.comparator.negated?.isSome = true) ∧
        criterion.affirmed.checkOperand = .ok () := by
  simp only [resolve_eq, bind_eq_ok, complement_eq_ok]
  constructor
  · intro ran
    obtain ⟨_, admitted, _, ⟨rfl, complemented⟩, _, fits, same⟩ := ran
    exact ⟨Except.ok.inj same, admitted, complemented, fits⟩
  · intro affirmed
    obtain ⟨rfl, admitted, complemented, fits⟩ := affirmed
    exact ⟨(), admitted, _, ⟨rfl, complemented⟩, (), fits, rfl⟩

/-- An operand that passes the check is what the comparator takes. -/
theorem isResolved_affirmed {criterion : PropertyCriterion}
    (fits : criterion.affirmed.checkOperand = .ok ()) : criterion.affirmed.IsResolved := by
  have named : criterion.affirmed.property ≠ Vocabulary.uriPseudo := by
    dsimp only [affirmed]
    split
    next => decide
    next other => exact other
  unfold checkOperand at fits
  refine ⟨rfl, named, fun list => ?_, fun takes single => ?_⟩
  · match operand : criterion.affirmed.operand with
    | none => simp [operand, Comparator.takesValue_of_takesList list] at fits
    | some (.single value) => simp [operand, list] at fits
    | some (.list values) => exact ⟨values, by simpa [operand, list] using fits, rfl⟩
  · match operand : criterion.affirmed.operand with
    | none => simp [operand, takes] at fits
    | some (.single value) => exact ⟨value, rfl⟩
    | some (.list values) => simp [operand, single] at fits

/-- What is resolved into itself is resolved. -/
theorem isResolved_of_resolve {registry : Registry} {criterion : PropertyCriterion}
    (fixed : criterion.resolve registry = .ok criterion) : criterion.IsResolved := by
  obtain ⟨same, -, -, fits⟩ := resolve_eq_ok.1 fixed
  exact same ▸ isResolved_affirmed fits

/-- What a criterion is resolved into is resolved into itself. -/
theorem resolve_self {registry : Registry} {criterion resolved : PropertyCriterion}
    (ran : criterion.resolve registry = .ok resolved) :
    resolved.resolve registry = .ok resolved := by
  obtain ⟨rfl, admitted, -, fits⟩ := resolve_eq_ok.1 ran
  obtain ⟨-, named, -, -⟩ := isResolved_affirmed fits
  have again : criterion.affirmed.affirmed = criterion.affirmed := by
    dsimp only [affirmed] at named ⊢
    rw [if_neg named]
    rfl
  rw [resolve_eq_ok, again]
  exact ⟨rfl, admission_meant_eq_ok.2 admitted, by simp [affirmed], fits⟩

/-- Spelling out the descendants of a property leaves what a criterion is resolved into, and is
done once and for all. -/
theorem fixed_of_spellOut {registry : Registry} {criterion spelled : PropertyCriterion}
    (fixed : criterion.resolve registry = .ok criterion)
    (ran : criterion.spellOut registry = .ok spelled) :
    spelled.resolve registry = .ok spelled ∧ spelled.spellOut registry = .ok spelled := by
  have resolved (expanded : List String) :
      resolve registry { criterion with expanded } = .ok { criterion with expanded } := by
    obtain ⟨same, rest⟩ := resolve_eq_ok.1 fixed
    have own : affirmed { criterion with expanded } = { criterion.affirmed with expanded } := rfl
    refine resolve_eq_ok.2 ⟨?_, rest⟩
    rw [own, same]
  have kept := ran
  unfold spellOut at ran
  split at ran
  next expands =>
    split at ran
    next => cases ran
    next definition found =>
      split at ran
      next first second rest below =>
        obtain rfl := Except.ok.inj ran
        refine ⟨resolved _, ?_⟩
        simp only [spellOut, expands, found, below, if_true]
      next =>
        obtain rfl := Except.ok.inj ran
        exact ⟨fixed, kept⟩
  next =>
    obtain rfl := Except.ok.inj ran
    exact ⟨fixed, kept⟩

end PropertyCriterion

namespace TypeCriterion

/-- A type criterion without negation is left as it is. -/
theorem resolve_self {criterion : TypeCriterion} (normal : criterion.IsNormal) :
    criterion.resolve = .ok criterion := by
  simp [resolve, normal.affirmed, normal.membership, normal.named]

/-- Once its types are spelled out a criterion names all of them. -/
theorem expand_of_spellOut {registry : Registry} {criterion spelled : TypeCriterion}
    (ran : criterion.spellOut registry = .ok spelled) : spelled.expand = false := by
  unfold spellOut at ran
  split at ran
  next =>
    split at ran
    next => cases ran
    next =>
      split at ran
      next =>
        split at ran
        next => cases ran
        next => split at ran <;> exact Except.ok.inj ran ▸ rfl
      next => cases ran
  next closed => exact Except.ok.inj ran ▸ Bool.eq_false_iff.2 closed

theorem spellOut_self {registry : Registry} {criterion : TypeCriterion}
    (closed : criterion.expand = false) : criterion.spellOut registry = .ok criterion := by
  simp [spellOut, closed]

end TypeCriterion

namespace Criterion

theorem resolved_of_resolve {registry : Registry} {criterion resolved : Criterion}
    (ran : criterion.resolve registry = .ok resolved) :
    resolved.resolve registry = .ok resolved ∧ resolved.IsNormal := by
  refine ⟨?_, (affirmed_of_resolve ran).2⟩
  cases criterion with
  | property criterion =>
    obtain ⟨inner, resolves, same⟩ := bind_eq_ok.1 ran
    obtain rfl := Except.ok.inj same
    rw [resolve, PropertyCriterion.resolve_self resolves]
    rfl
  | type criterion =>
    obtain ⟨inner, resolves, same⟩ := bind_eq_ok.1 ran
    obtain rfl := Except.ok.inj same
    rw [resolve, TypeCriterion.resolve_self (TypeCriterion.affirmed_of_resolve resolves).2]
    rfl

/-- After both passes a criterion is resolved, and neither of them would change it. -/
theorem fixed_of_spellOut {registry : Registry} {criterion spelled : Criterion}
    (resolved : criterion.resolve registry = .ok criterion ∧ criterion.IsNormal)
    (ran : criterion.spellOut registry = .ok spelled) :
    spelled.resolve registry = .ok spelled ∧ spelled.spellOut registry = .ok spelled ∧
      spelled.IsResolved := by
  obtain ⟨fixed, normal⟩ := resolved
  cases criterion with
  | property criterion =>
    obtain ⟨own, resolves, same⟩ := bind_eq_ok.1 fixed
    obtain rfl : own = criterion := Criterion.property.inj (Except.ok.inj same)
    obtain ⟨inner, spells, same⟩ := bind_eq_ok.1 ran
    obtain rfl := Except.ok.inj same
    obtain ⟨again, kept⟩ := PropertyCriterion.fixed_of_spellOut resolves spells
    refine ⟨?_, ?_, PropertyCriterion.isResolved_of_resolve again⟩
    · rw [resolve, again]
      rfl
    · rw [spellOut, kept]
      rfl
  | type criterion =>
    obtain ⟨inner, spells, same⟩ := bind_eq_ok.1 ran
    obtain rfl := Except.ok.inj same
    have normal : inner.IsNormal := TypeCriterion.normal_spellOut normal spells
    have closed := TypeCriterion.expand_of_spellOut spells
    refine ⟨?_, ?_, ⟨normal, closed⟩⟩
    · rw [resolve, TypeCriterion.resolve_self normal]
      rfl
    · rw [spellOut, TypeCriterion.spellOut_self closed]
      rfl

end Criterion

/-! Taking containers away inside out leaves none to take away. -/

namespace Element

mutual

/-- A traversal that leaves every criterion as it is leaves the element as it is. -/
theorem traverse_self {f : Criterion → Except Error Criterion} (element : Element)
    (fixed : element.Every fun criterion => f criterion = .ok criterion) :
    element.traverse f = .ok element := by
  match element with
  | .leaf criterion =>
    have fixed : f criterion = .ok criterion := fixed
    rw [traverse, fixed]
    rfl
  | .nested connective elements =>
    rw [traverse, traverseAll_self elements fixed]
    rfl

theorem traverseAll_self {f : Criterion → Except Error Criterion} (elements : List Element)
    (fixed : EveryAll (fun criterion => f criterion = .ok criterion) elements) :
    traverseAll f elements = .ok elements := by
  match elements with
  | [] => rfl
  | element :: rest =>
    rw [traverseAll, traverse_self element fixed.1, ok_bind, traverseAll_self rest fixed.2]
    rfl

end

mutual

/-- Whether no container in an element, nor the element itself, holds nothing but a container. -/
def IsLifted : Element → Prop
  | .leaf _ => True
  | .nested _ elements =>
    (∀ connective inner, elements ≠ [.nested connective inner]) ∧ AreLifted elements

def AreLifted : List Element → Prop
  | [] => True
  | element :: rest => element.IsLifted ∧ AreLifted rest

end

theorem isLifted_solePart (connective : Connective) {elements : List Element}
    (lifted : AreLifted elements) :
    (Container.solePart connective elements).asElement.IsLifted := by
  unfold Container.solePart
  split
  next inner elements => exact lifted.1
  next other => exact ⟨fun connective inner same => other connective inner same, lifted⟩

mutual

theorem isLifted_lift (element : Element) : element.lift.IsLifted := by
  match element with
  | .leaf criterion => exact trivial
  | .nested connective elements => exact isLifted_solePart connective (areLifted_liftAll elements)

theorem areLifted_liftAll (elements : List Element) : AreLifted (liftAll elements) := by
  match elements with
  | [] => exact trivial
  | element :: rest => exact ⟨isLifted_lift element, areLifted_liftAll rest⟩

end

/-- A lifted container is not unwrapped into one that holds nothing but a container. -/
theorem unwrapAll_ne_nested {elements : List Element}
    (lifted : ∀ connective inner, elements ≠ [.nested connective inner])
    (connective : Connective) (inner : List Element) :
    unwrapAll elements ≠ [.nested connective inner] := by
  intro same
  match elements with
  | [] => cases same
  | [.leaf criterion] => cases same
  | [.nested own inside] => exact lifted own inside rfl
  | first :: second :: rest => simp [unwrapAll] at same

/-- Where containers hold more than a container, only leaves are alone in them. -/
theorem branches_soleElement (connective : Connective) {elements : List Element}
    (lifted : ∀ connective inner, elements ≠ [.nested connective inner])
    (branching : BranchAll elements) : (soleElement connective elements).Branches := by
  match elements with
  | [.leaf criterion] => exact trivial
  | [.nested own inner] => exact absurd rfl (lifted own inner)
  | [] => exact ⟨by simp, branching⟩
  | first :: second :: rest => exact ⟨by simp, branching⟩

mutual

theorem branches_unwrap (element : Element) (lifted : element.IsLifted) :
    element.unwrap.Branches := by
  match element with
  | .leaf criterion => exact trivial
  | .nested connective elements =>
    exact branches_soleElement connective (unwrapAll_ne_nested lifted.1)
      (branchAll_unwrapAll elements lifted.2)

theorem branchAll_unwrapAll (elements : List Element) (lifted : AreLifted elements) :
    BranchAll (unwrapAll elements) := by
  match elements with
  | [] => exact trivial
  | element :: rest =>
    exact ⟨branches_unwrap element lifted.1, branchAll_unwrapAll rest lifted.2⟩

end

theorem solePart_eq (connective : Connective) {elements : List Element}
    (root : ∀ connective inner, elements ≠ [.nested connective inner]) :
    Container.solePart connective elements = ⟨connective, elements⟩ := by
  unfold Container.solePart
  split
  next inner elements => exact absurd rfl (root inner elements)
  next => rfl

theorem soleElement_eq (connective : Connective) {elements : List Element}
    (several : elements.length ≠ 1) :
    soleElement connective elements = .nested connective elements := by
  unfold soleElement
  split
  next => exact absurd rfl several
  next => rfl

theorem ne_nested_of_length {elements : List Element} (several : elements.length ≠ 1)
    (connective : Connective) (inner : List Element) : elements ≠ [.nested connective inner] :=
  fun same => several (same ▸ rfl)

mutual

theorem lift_self (element : Element) (branching : element.Branches) : element.lift = element := by
  match element with
  | .leaf criterion => rfl
  | .nested connective elements =>
    rw [lift, liftAll_self elements branching.2,
      solePart_eq connective (ne_nested_of_length branching.1)]
    rfl

theorem liftAll_self (elements : List Element) (branching : BranchAll elements) :
    liftAll elements = elements := by
  match elements with
  | [] => rfl
  | element :: rest =>
    rw [liftAll, lift_self element branching.1, liftAll_self rest branching.2]

end

mutual

theorem unwrap_self (element : Element) (branching : element.Branches) :
    element.unwrap = element := by
  match element with
  | .leaf criterion => rfl
  | .nested connective elements =>
    rw [unwrap, unwrapAll_self elements branching.2, soleElement_eq connective branching.1]

theorem unwrapAll_self (elements : List Element) (branching : BranchAll elements) :
    unwrapAll elements = elements := by
  match elements with
  | [] => rfl
  | element :: rest =>
    rw [unwrapAll, unwrap_self element branching.1, unwrapAll_self rest branching.2]

end

end Element

namespace Container

/-- Criteria in normal form that no pass would change are their own normal form. -/
theorem normalize_self {registry : Registry} {container : Container}
    (normal : container.InNormalForm)
    (resolves : container.Every fun criterion => criterion.resolve registry = .ok criterion)
    (spells : container.Every fun criterion => criterion.spellOut registry = .ok criterion) :
    container.normalize registry = .ok container := by
  have lifted := Element.liftAll_self container.elements normal.branching
  have unwrapped := Element.unwrapAll_self container.elements normal.branching
  simp only [normalize, Element.traverseAll_self _ resolves, Element.traverseAll_self _ spells,
    ok_bind, lifted, Element.solePart_eq _ normal.root, unwrapped]
  rfl

/-- What criteria are brought into is in normal form, and its own normal form. -/
theorem inNormalForm_of_normalize {registry : Registry} {raw normal : Container}
    (ran : raw.normalize registry = .ok normal) :
    normal.InNormalForm ∧ normal.normalize registry = .ok normal := by
  obtain ⟨resolved, first, ran⟩ := bind_eq_ok.1 ran
  obtain ⟨expanded, second, same⟩ := bind_eq_ok.1 ran
  obtain rfl := Except.ok.inj same
  have start : Element.EveryAll (fun _ => True) raw.elements :=
    Element.everyAll_of_forall (fun _ => trivial) raw.elements
  have resolves : Element.EveryAll _ resolved :=
    Element.everyAll_traverseAll (fun _ _ _ => Criterion.resolved_of_resolve) _ start first
  have kept {p : Criterion → Prop}
      (spelled : ∀ criterion spelled : Criterion,
        criterion.resolve registry = .ok criterion ∧ criterion.IsNormal →
        criterion.spellOut registry = .ok spelled → p spelled) :
      Element.EveryAll p
        (Element.unwrapAll (solePart raw.connective (Element.liftAll expanded)).elements) :=
    Element.everyAll_unwrapAll _ (Element.everyAll_solePart raw.connective
      (Element.everyAll_liftAll expanded (Element.everyAll_traverseAll spelled _ resolves second)))
  have lifted := Element.isLifted_solePart raw.connective (Element.areLifted_liftAll expanded)
  have normal : InNormalForm
      { solePart raw.connective (Element.liftAll expanded) with
        elements :=
          Element.unwrapAll (solePart raw.connective (Element.liftAll expanded)).elements } :=
    ⟨kept fun _ _ normal ran => (Criterion.fixed_of_spellOut normal ran).2.2,
      Element.branchAll_unwrapAll _ lifted.2, Element.unwrapAll_ne_nested lifted.1⟩
  refine ⟨normal, normalize_self normal ?_ ?_⟩
  · exact kept fun _ _ normal ran => (Criterion.fixed_of_spellOut normal ran).1
  · exact kept fun _ _ normal ran => (Criterion.fixed_of_spellOut normal ran).2.1

end Container

end GraphSegments
