import GraphSegments.Proofs.Criteria.Correspondence
import GraphSegments.Proofs.Criteria.Stability
import GraphSegments.Search.Matching

/-!
Criteria may name properties and types with the version of their ontology or without. Where the
registry says the same of both names and nothing goes by the names as they are spelled, as folds do,
the normal forms of the two differ in their spelling only.
-/

namespace GraphSegments
open Results

/-! Criteria in the current vocabulary. -/

/-- The criterion with its properties in the current vocabulary. -/
def PropertyCriterion.current (criterion : PropertyCriterion) : PropertyCriterion :=
  { criterion with
    property := versionless criterion.property
    expanded := criterion.expanded.map versionless }

/-- The criterion with its types in the current vocabulary. -/
def TypeCriterion.current (criterion : TypeCriterion) : TypeCriterion :=
  { criterion with types := criterion.types.map versionless }

def Criterion.current : Criterion → Criterion
  | property criterion => property criterion.current
  | type criterion => type criterion.current

/-- The criteria with all names in the current vocabulary. -/
def Container.current (container : Container) : Container := container.replace Criterion.current

/-- Two names that are expanded alike: both are known or neither is, and if they are, what is below
them is the same in the current vocabulary. -/
def ExpandAlike {α : Type} (known? : String → Option α) (below : String → List String)
    (name other : String) : Prop :=
  (known? other).isSome = (known? name).isSome ∧
    ((known? name).isSome = true →
      (below other).map versionless = (below name).map versionless)

/-- A criterion on a property of which the registry says the same in both spellings. Names carry
no more than one version. A fold goes by the names of two properties as they are spelled. -/
structure PropertyCriterion.IsTransparent (scope : SegmentScope) (criterion : PropertyCriterion) :
    Prop where
  settled : ∀ name ∈ criterion.property :: criterion.expanded,
    versionless (versionless name) = versionless name
  named : versionless criterion.property = Vocabulary.uriPseudo →
    criterion.property = Vocabulary.uriPseudo
  admitted : admission scope.registry criterion.property criterion.comparator = .ok () ↔
    admission scope.registry (versionless criterion.property) criterion.comparator = .ok ()
  column : ∀ value ∈ criterion.values.head?, criterion.current.columnOf scope.toLeafScope value =
    criterion.columnOf scope.toLeafScope value
  expandable : criterion.expand = true →
    ExpandAlike scope.registry.property? (scope.registry.subproperties · true) criterion.property
      (versionless criterion.property)
  folded : scope.folding = true → ∀ name ∈ [Vocabulary.hasChannel, Vocabulary.hasTimestamp],
    versionless criterion.property = name → criterion.property = name

/-- A criterion on types of which the registry says the same in both spellings. A fold goes by
types as they are spelled. -/
structure TypeCriterion.IsTransparent (scope : SegmentScope) (criterion : TypeCriterion) :
    Prop where
  settled : ∀ type ∈ criterion.types, versionless (versionless type) = versionless type
  expandable : criterion.expand = true → ∀ type ∈ criterion.types,
    ExpandAlike scope.registry.class? (scope.registry.subclasses · true) type (versionless type)
  folded : scope.folding = true → ∀ type ∈ criterion.types, versionless type = type

def Criterion.IsTransparent (scope : SegmentScope) : Criterion → Prop
  | property criterion => criterion.IsTransparent scope
  | type criterion => criterion.IsTransparent scope

mutual

/-- The properties that the criteria of an element compare, as they are spelled. -/
def Element.properties : Element → List String
  | .leaf (.property criterion) => [criterion.affirmed.property]
  | .leaf (.type _) => []
  | .nested _ elements => Element.propertiesAll elements

def Element.propertiesAll : List Element → List String
  | [] => []
  | element :: rest => element.properties ++ Element.propertiesAll rest

end

/-- Names that do not spell one property in two ways. -/
def AreSpelledOnce (names : List String) : Prop :=
  ∀ name ∈ names, ∀ other ∈ names, versionless name = versionless other → name = other

/-! Criteria that read as one another. -/

/-- Two criteria that differ in how they spell properties, and not in what they mean. -/
structure PropertyCriterion.ReadsAs (scope : SegmentScope) (names : List String)
    (first second : PropertyCriterion) : Prop where
  listed : first.property ∈ names
  property : second.property = versionless first.property
  names : second.names.map versionless = first.names.map versionless
  comparator : second.comparator = first.comparator
  operand : second.operand = first.operand
  negated : second.negated = first.negated
  expand : second.expand = first.expand
  column : ∀ value ∈ first.values.head?,
    second.columnOf scope.toLeafScope value = first.columnOf scope.toLeafScope value
  expandable : first.expand = true →
    ExpandAlike scope.registry.property? (scope.registry.subproperties · true) first.property
      second.property
  folded : scope.folding = true → ∀ name ∈ [Vocabulary.hasChannel, Vocabulary.hasTimestamp],
    second.property = name → first.property = name

/-- Two criteria that differ in how they spell types, and not in what they mean. -/
structure TypeCriterion.ReadsAs (scope : SegmentScope) (first second : TypeCriterion) : Prop where
  types : second.types.map versionless = first.types.map versionless
  comparator : second.comparator = first.comparator
  negated : second.negated = first.negated
  expand : second.expand = first.expand
  expandable : first.expand = true → ∀ type other, first.types = [type] → second.types = [other] →
    ExpandAlike scope.registry.class? (scope.registry.subclasses · true) type other
  folded : scope.folding = true → second.types = first.types

def Criterion.ReadsAs (scope : SegmentScope) (names : List String) : Criterion → Criterion → Prop
  | property first, property second => first.ReadsAs scope names second
  | type first, type second => first.ReadsAs scope second
  | _, _ => False

theorem ExpandAlike.refl {α : Type} {known? : String → Option α} {below : String → List String}
    (name : String) : ExpandAlike known? below name name :=
  ⟨rfl, fun _ => rfl⟩

theorem versionless_uriProperty : versionless Vocabulary.uriProperty = Vocabulary.uriProperty := by
  decide +kernel

/-! Both spellings are resolved alike. -/

namespace PropertyCriterion

variable {scope : SegmentScope} {names : List String} {criterion first second : PropertyCriterion}

theorem columnOf_affirmed (named : criterion.property ≠ Vocabulary.uriPseudo) (value : Value) :
    criterion.affirmed.columnOf scope.toLeafScope value =
      criterion.columnOf scope.toLeafScope value := by
  have containment : (criterion.affirmed.comparator == .contains ||
      criterion.affirmed.comparator == .notContains) =
      (criterion.comparator == .contains || criterion.comparator == .notContains) := by
    dsimp only [affirmed, Comparator.meant]
    cases criterion.negated with
    | false => rfl
    | true =>
      cases negation : criterion.comparator.negated? with
      | none => rfl
      | some complement => exact Comparator.isContainment_of_negated? negation
  have property : criterion.affirmed.property = criterion.property := if_neg named
  unfold columnOf
  rw [property, containment]

theorem checkOperand_congr (comparator : second.comparator = first.comparator)
    (operand : second.operand = first.operand) :
    first.checkOperand = .ok () ↔ second.checkOperand = .ok () := by
  unfold checkOperand
  rw [comparator, operand]
  match first.operand with
  | none | some (.single _) | some (.list _) => dsimp only; repeat' split <;> simp

theorem IsTransparent.affirmed_property (transparent : criterion.IsTransparent scope) :
    criterion.current.affirmed.property = versionless criterion.affirmed.property := by
  dsimp only [affirmed, current]
  by_cases named : criterion.property = Vocabulary.uriPseudo
  · have same : versionless Vocabulary.uriPseudo = Vocabulary.uriPseudo := by decide +kernel
    rw [named, same, if_pos rfl, versionless_uriProperty]
  · rw [if_neg named, if_neg fun same => named (transparent.named same)]

theorem IsTransparent.settled_affirmed (transparent : criterion.IsTransparent scope) :
    versionless (versionless criterion.affirmed.property) =
      versionless criterion.affirmed.property := by
  dsimp only [affirmed]
  split
  next => rw [versionless_uriProperty, versionless_uriProperty]
  next => exact transparent.settled _ List.mem_cons_self

theorem IsTransparent.names_affirmed (transparent : criterion.IsTransparent scope) :
    criterion.current.affirmed.names.map versionless =
      criterion.affirmed.names.map versionless := by
  have settled : (criterion.expanded.map versionless).map versionless =
      criterion.expanded.map versionless := by
    rw [List.map_map]
    exact List.map_congr_left fun name listed =>
      transparent.settled name (List.mem_cons_of_mem _ listed)
  have expanded : criterion.affirmed.expanded = criterion.expanded ∧
      criterion.current.affirmed.expanded = criterion.expanded.map versionless := ⟨rfl, rfl⟩
  unfold names
  rw [expanded.1, expanded.2, List.isEmpty_map, transparent.affirmed_property]
  split
  next => exact congrArg (fun name => [name]) transparent.settled_affirmed
  next => exact settled

/-- What the two spellings of a criterion are resolved into reads as one another. -/
theorem IsTransparent.readsAs_affirmed (transparent : criterion.IsTransparent scope)
    (listed : criterion.affirmed.property ∈ names) :
    criterion.affirmed.ReadsAs scope names criterion.current.affirmed where
  listed := listed
  property := transparent.affirmed_property
  names := transparent.names_affirmed
  comparator := rfl
  operand := rfl
  negated := rfl
  expand := rfl
  column value head := by
    by_cases named : criterion.property = Vocabulary.uriPseudo
    · have same : criterion.current.affirmed.property = criterion.affirmed.property := by
        rw [transparent.affirmed_property, affirmed, if_pos named, versionless_uriProperty]
      unfold columnOf
      rw [same]
      rfl
    · rw [columnOf_affirmed named, columnOf_affirmed fun same => named (transparent.named same)]
      exact transparent.column value head
  expandable expands := by
    rw [transparent.affirmed_property]
    dsimp only [affirmed]
    split
    next => exact versionless_uriProperty.symm ▸ .refl _
    next => exact transparent.expandable expands
  folded folding name special same := by
    rw [transparent.affirmed_property] at same
    by_cases named : criterion.property = Vocabulary.uriPseudo
    · have renamed : criterion.affirmed.property = Vocabulary.uriProperty := if_pos named
      rw [renamed, versionless_uriProperty] at same
      exact renamed.trans same
    · have kept : criterion.affirmed.property = criterion.property := if_neg named
      rw [kept] at same ⊢
      exact transparent.folded folding name special same

/-- Both spellings of a criterion are resolved, or neither. -/
theorem IsTransparent.agree_resolve (transparent : criterion.IsTransparent scope)
    (listed : criterion.affirmed.property ∈ names) :
    Agree (ReadsAs scope names) (criterion.resolve scope.registry)
      (criterion.current.resolve scope.registry) := by
  have admitted : admission scope.registry criterion.affirmed.property criterion.comparator =
      .ok () ↔ admission scope.registry criterion.current.affirmed.property criterion.comparator =
        .ok () := by
    rw [transparent.affirmed_property]
    dsimp only [affirmed]
    split
    next => rw [versionless_uriProperty]
    next => exact transparent.admitted
  have operand : criterion.affirmed.checkOperand = .ok () ↔
      criterion.current.affirmed.checkOperand = .ok () := checkOperand_congr rfl rfl
  apply agree_of_eq_ok
  · simp only [resolve_eq_ok]
    constructor
    · intro resolved
      obtain ⟨_, -, admits, complement, fits⟩ := resolved
      exact ⟨_, rfl, admitted.1 admits, complement, operand.1 fits⟩
    · intro resolved
      obtain ⟨_, -, admits, complement, fits⟩ := resolved
      exact ⟨_, rfl, admitted.2 admits, complement, operand.2 fits⟩
  · intro a b first second
    obtain ⟨rfl, -⟩ := resolve_eq_ok.1 first
    obtain ⟨rfl, -⟩ := resolve_eq_ok.1 second
    exact transparent.readsAs_affirmed listed

/-- What reads as one another is spelled out alike. -/
theorem ReadsAs.agree_spellOut (reads : first.ReadsAs scope names second) :
    Agree (ReadsAs scope names) (first.spellOut scope.registry)
      (second.spellOut scope.registry) := by
  unfold spellOut
  rw [reads.expand]
  split
  next expands =>
    obtain ⟨known, below⟩ := reads.expandable expands
    match looked : scope.registry.property? first.property,
      looked' : scope.registry.property? second.property with
    | none, none => trivial
    | some _, some _ =>
      have below : (scope.registry.subproperties second.property true).map versionless =
          (scope.registry.subproperties first.property true).map versionless :=
        below (looked ▸ rfl)
      dsimp only
      match kin : scope.registry.subproperties first.property true,
        kin' : scope.registry.subproperties second.property true with
      | _ :: _ :: _, _ :: _ :: _ =>
        rw [kin, kin'] at below
        exact { reads with names := below, expand := rfl }
      | [], [] | [_], [_] => exact reads
      | [], _ :: _ | _ :: _, [] | [_], _ :: _ :: _ | _ :: _ :: _, [_] =>
        rw [kin, kin'] at below
        exact absurd (congrArg List.length below) (by simp)
    | none, some _ | some _, none =>
      rw [looked, looked'] at known
      cases known
  next => exact reads

end PropertyCriterion

namespace TypeCriterion

variable {scope : SegmentScope} {criterion first second : TypeCriterion}

theorem map_versionless_of_current {types : List String}
    (current : ∀ type ∈ types, versionless type = type) : types.map versionless = types :=
  (List.map_congr_left current).trans (List.map_id' types)

theorem IsTransparent.readsAs_current (transparent : criterion.IsTransparent scope) :
    criterion.ReadsAs scope criterion.current where
  types := by
    dsimp only [current]
    rw [List.map_map]
    exact List.map_congr_left transparent.settled
  comparator := rfl
  negated := rfl
  expand := rfl
  expandable expands type other one another := by
    have spelled : criterion.types.map versionless = [other] := another
    rw [one] at spelled
    obtain rfl : versionless type = other := List.head_eq_of_cons_eq spelled
    exact transparent.expandable expands type (one ▸ List.mem_cons_self)
  folded folding := map_versionless_of_current (transparent.folded folding)

theorem ReadsAs.isEmpty (reads : first.ReadsAs scope second) :
    second.types.isEmpty = first.types.isEmpty := by
  rw [← List.isEmpty_map, reads.types, List.isEmpty_map]

theorem ReadsAs.agree_resolve (reads : first.ReadsAs scope second) :
    Agree (ReadsAs scope) first.resolve second.resolve := by
  unfold resolve
  rw [reads.isEmpty, reads.comparator, reads.negated]
  split
  next => trivial
  next =>
    split
    next => trivial
    next =>
      split
      next =>
        split
        next => exact { reads with comparator := rfl, negated := rfl }
        next => trivial
      next => exact reads

theorem ReadsAs.agree_spellOut (reads : first.ReadsAs scope second) :
    Agree (ReadsAs scope) (first.spellOut scope.registry) (second.spellOut scope.registry) := by
  have types := reads.types
  unfold spellOut
  rw [reads.expand, reads.comparator]
  split
  next expands =>
    split
    next => trivial
    next =>
      match one : first.types, other : second.types with
      | [type], [spelled] =>
        dsimp only
        have folded : scope.folding = true → [spelled] = [type] := fun folding =>
          (other.symm.trans (reads.folded folding)).trans one
        rw [one, other] at types
        obtain ⟨known, below⟩ := reads.expandable expands type spelled one other
        match looked : scope.registry.class? type, looked' : scope.registry.class? spelled with
        | none, none => trivial
        | some _, some _ =>
          have below : (scope.registry.subclasses spelled true).map versionless =
              (scope.registry.subclasses type true).map versionless := below (looked ▸ rfl)
          dsimp only
          match kin : scope.registry.subclasses type true,
            kin' : scope.registry.subclasses spelled true with
          | _ :: _ :: _, _ :: _ :: _ =>
            rw [kin, kin'] at below
            refine ⟨below, rfl, reads.negated, rfl, by simp, fun folding => ?_⟩
            obtain rfl := List.head_eq_of_cons_eq (folded folding)
            exact kin'.symm.trans kin
          | [], [] | [_], [_] => exact ⟨types, rfl, reads.negated, rfl, by simp, folded⟩
          | [], _ :: _ | _ :: _, [] | [_], _ :: _ :: _ | _ :: _ :: _, [_] =>
            rw [kin, kin'] at below
            exact absurd (congrArg List.length below) (by simp)
        | none, some _ | some _, none =>
          rw [looked, looked'] at known
          cases known
      | [], [] | _ :: _ :: _, _ :: _ :: _ => trivial
      | [], _ :: _ | _ :: _, [] | [_], _ :: _ :: _ | _ :: _ :: _, [_] =>
        rw [one, other] at types
        exact absurd (congrArg List.length types) (by simp)
  next => exact reads

end TypeCriterion

namespace Criterion

variable {scope : SegmentScope} {names : List String}

/-- Both spellings of a criterion are resolved, or neither. -/
theorem IsTransparent.agree_resolve {criterion : Criterion}
    (transparent : criterion.IsTransparent scope)
    (listed : ∀ name ∈ (Element.leaf criterion).properties, name ∈ names) :
    Agree (ReadsAs scope names) (criterion.resolve scope.registry)
      (criterion.current.resolve scope.registry) := by
  cases criterion with
  | property criterion =>
    exact (PropertyCriterion.IsTransparent.agree_resolve transparent
      (listed _ List.mem_cons_self)).bind fun _ _ reads => reads
  | type criterion =>
    exact (TypeCriterion.IsTransparent.readsAs_current transparent).agree_resolve.bind
      fun _ _ reads => reads

/-- What reads as one another is spelled out alike. -/
theorem ReadsAs.agree_spellOut {first second : Criterion}
    (reads : first.ReadsAs scope names second) :
    Agree (ReadsAs scope names) (first.spellOut scope.registry)
      (second.spellOut scope.registry) := by
  cases first <;> cases second
  · exact (PropertyCriterion.ReadsAs.agree_spellOut reads).bind fun _ _ reads => reads
  · cases reads
  · cases reads
  · exact (TypeCriterion.ReadsAs.agree_spellOut reads).bind fun _ _ reads => reads

end Criterion

namespace Element

variable {names : List String}

mutual

theorem every_listed (element : Element) (listed : ∀ name ∈ element.properties, name ∈ names) :
    element.Every fun criterion => ∀ name ∈ (leaf criterion).properties, name ∈ names := by
  match element with
  | .leaf _ => exact listed
  | .nested _ elements => exact everyAll_listed elements listed

theorem everyAll_listed (elements : List Element)
    (listed : ∀ name ∈ propertiesAll elements, name ∈ names) :
    EveryAll (fun criterion => ∀ name ∈ (leaf criterion).properties, name ∈ names) elements := by
  match elements with
  | [] => exact trivial
  | element :: rest =>
    exact ⟨every_listed element fun name found => listed name (List.mem_append_left _ found),
      everyAll_listed rest fun name found => listed name (List.mem_append_right _ found)⟩

end

end Element

/-- Criteria in the current vocabulary have a normal form that reads as that of the criteria as they
are spelled, or neither have one. -/
theorem Container.agree_normalize_current {scope : SegmentScope} {raw : Container}
    (transparent : raw.Every (Criterion.IsTransparent scope)) :
    Agree (Corresponds (Criterion.ReadsAs scope (Element.propertiesAll raw.elements)))
      (raw.normalize scope.registry) (raw.current.normalize scope.registry) := by
  let names := Element.propertiesAll raw.elements
  let related (criterion other : Criterion) : Prop :=
    other = criterion.current ∧ criterion.IsTransparent scope ∧
      ∀ name ∈ (Element.leaf criterion).properties, name ∈ names
  have listed := Element.everyAll_listed raw.elements fun name found => found
  have every := Element.EveryAll.and raw.elements transparent listed
  have correspond : raw.Corresponds related raw.current :=
    ⟨rfl, Element.allCorrespond_replaceAll (fun _ both => ⟨rfl, both⟩) raw.elements every⟩
  refine correspond.normalize ?_ fun _ _ reads => Criterion.ReadsAs.agree_spellOut reads
  intro criterion other alike
  obtain ⟨rfl, transparent, listed⟩ := alike
  exact transparent.agree_resolve listed

end GraphSegments
