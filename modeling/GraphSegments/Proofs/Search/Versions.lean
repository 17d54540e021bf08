import GraphSegments.Proofs.Search.Blindness
import GraphSegments.Proofs.Search.Questions
import GraphSegments.Proofs.Search.Spellings
import GraphSegments.Table.Writing

/-!
A search finds the same whether its criteria name properties and types with the version of their
ontology or without, as long as the registry says the same of both and neither a fold nor the choice
of the probes goes by a name that is spelled with a version.
-/

namespace GraphSegments
open Results

namespace PropertyCriterion

variable {scope : SegmentScope} {names : List String} {first second : PropertyCriterion}

theorem ReadsAs.nameCondition (reads : first.ReadsAs scope names second) :
    second.nameCondition = first.nameCondition := by
  unfold PropertyCriterion.nameCondition
  rw [reads.names]

theorem ReadsAs.values (reads : first.ReadsAs scope names second) :
    second.values = first.values := by
  unfold PropertyCriterion.values
  rw [reads.operand]

theorem ReadsAs.agree_valueCondition? (reads : first.ReadsAs scope names second) :
    Agree (· = ·) (first.valueCondition? scope.toLeafScope)
      (second.valueCondition? scope.toLeafScope) := by
  have column := reads.column
  unfold valueCondition?
  rw [reads.comparator, reads.values]
  split
  next => exact rfl
  next =>
    cases values : first.values with
    | nil => trivial
    | cons value rest =>
      rw [values] at column
      simp only [column value rfl]
      split
      next => trivial
      next => exact agree_self _

/-- What reads as one another is about the channel or the timestamp, or neither is. -/
theorem ReadsAs.special_iff (reads : first.ReadsAs scope names second)
    (folding : scope.folding = true) {name : String}
    (special : name ∈ [Vocabulary.hasChannel, Vocabulary.hasTimestamp]) :
    second.property = name ↔ first.property = name := by
  have current : ∀ name ∈ [Vocabulary.hasChannel, Vocabulary.hasTimestamp],
      versionless name = name := by decide +kernel
  constructor
  · exact reads.folded folding name special
  · intro same
    rw [reads.property, same, current name special]

end PropertyCriterion

theorem TypeCriterion.ReadsAs.condition {scope : SegmentScope} {first second : TypeCriterion}
    (reads : first.ReadsAs scope second) : second.condition = first.condition := by
  unfold TypeCriterion.condition
  rw [reads.types, reads.comparator]

namespace Criterion

variable {scope : SegmentScope} {names : List String} {first second : Criterion}

theorem ReadsAs.agree_leafCondition (reads : first.ReadsAs scope names second)
    (fold : Option Fold) :
    Agree (· = ·) (first.leafCondition scope.toLeafScope fold)
      (second.leafCondition scope.toLeafScope fold) := by
  have subject : second.subject = first.subject := by
    cases first <;> cases second
    · exact PropertyCriterion.ReadsAs.nameCondition reads
    · cases reads
    · cases reads
    · rfl
  have demand : Agree (· = ·) (first.demand? scope.toLeafScope)
      (second.demand? scope.toLeafScope) := by
    cases first <;> cases second
    · exact PropertyCriterion.ReadsAs.agree_valueCondition? reads
    · cases reads
    · cases reads
    · dsimp only [demand?]
      rw [TypeCriterion.ReadsAs.condition reads]
      exact agree_self _
  unfold leafCondition
  rw [subject]
  refine demand.bind fun _ _ same => ?_
  subst same
  exact rfl

theorem ReadsAs.probeCondition (reads : first.ReadsAs scope names second) :
    second.probeCondition = first.probeCondition := by
  cases first <;> cases second
  · dsimp only [Criterion.probeCondition]
    rw [PropertyCriterion.ReadsAs.nameCondition reads]
  · cases reads
  · cases reads
  · dsimp only [Criterion.probeCondition]
    rw [TypeCriterion.ReadsAs.condition reads]

theorem ReadsAs.isSetNegation (reads : first.ReadsAs scope names second) :
    first.isSetNegation = second.isSetNegation := by
  cases first <;> cases second
  · exact congrArg Comparator.isSetNegation (PropertyCriterion.ReadsAs.comparator reads).symm
  · cases reads
  · cases reads
  · rfl

/-- A fold takes in alike what reads as one another. -/
theorem ReadsAs.merge (reads : first.ReadsAs scope names second) (folding : scope.folding = true)
    (progress : Fold.Progress) (place : Nat) :
    progress.merge place first = progress.merge place second := by
  cases first with
  | property first =>
    cases second with
    | type second => cases reads
    | property second =>
      have reads : first.ReadsAs scope names second := reads
      simp only [Fold.Progress.merge, reads.special_iff folding List.mem_cons_self,
        reads.special_iff folding (List.mem_cons_of_mem _ List.mem_cons_self),
        Fold.Progress.mergeChannel, Fold.Progress.mergeTimestamp, reads.values, reads.comparator]
  | type first =>
    cases second with
    | property second => cases reads
    | type second =>
      have reads : first.ReadsAs scope second := reads
      dsimp only [Fold.Progress.merge]
      unfold Fold.Progress.mergeType TypeCriterion.isInclusive
      rw [reads.folded folding, reads.comparator]

end Criterion

section Folds

variable {scope : SegmentScope} {names : List String} {elements others : List Element}
  (alike : Element.AllCorrespond (Criterion.ReadsAs scope names) elements others)
  (folding : scope.folding = true)
include alike folding

theorem Fold.Progress.mergeAll_eq_of_readsAs (progress : Fold.Progress) (place : Nat) :
    progress.mergeAll place elements = progress.mergeAll place others := by
  induction elements generalizing others progress place with
  | nil =>
    cases others with
    | nil => rfl
    | cons => cases alike
  | cons element rest ih =>
    cases others with
    | nil => cases alike
    | cons other others =>
      obtain ⟨first, later⟩ := alike
      match element, other with
      | .nested .., .nested .. => rfl
      | .leaf criterion, .leaf second =>
        rw [mergeAll, mergeAll, Criterion.ReadsAs.merge first folding]
        exact bind_congr fun progress => ih later progress _
      | .leaf _, .nested .. | .nested .., .leaf _ => cases first

theorem Fold.collectTypes_eq_of_readsAs {accepts : TypeCriterion → Bool}
    (fits : ∀ first second : TypeCriterion, second.comparator = first.comparator →
      second.negated = first.negated → accepts second = accepts first) :
    collectTypes accepts elements = collectTypes accepts others := by
  induction elements generalizing others with
  | nil =>
    cases others with
    | nil => rfl
    | cons => cases alike
  | cons element rest ih =>
    cases others with
    | nil => cases alike
    | cons other others =>
      obtain ⟨first, later⟩ := alike
      match element, other with
      | .nested .., .nested .. => rfl
      | .leaf (.property _), .leaf (.property _) => rfl
      | .leaf (.type criterion), .leaf (.type second) =>
        have reads : criterion.ReadsAs scope second := first
        rw [collectTypes, collectTypes, fits _ _ reads.comparator reads.negated,
          reads.folded folding, ih later]
      | .leaf _, .nested .. | .nested .., .leaf _ | .leaf (.property _), .leaf (.type _)
      | .leaf (.type _), .leaf (.property _) => cases first

theorem Fold.ofTypes_eq_of_readsAs (connective : Connective) :
    ofTypes ⟨connective, elements⟩ = ofTypes ⟨connective, others⟩ := by
  unfold ofTypes ofTypeOr ofTypeNeAnd
  dsimp only
  rw [collectTypes_eq_of_readsAs alike folding fun _ _ comparator negated => by
      rw [comparator, negated],
    collectTypes_eq_of_readsAs alike folding fun _ _ comparator negated => by
      rw [comparator, negated]]

end Folds

section Probes

variable {scope : SegmentScope} {names : List String} (once : AreSpelledOnce names)
include once

theorem contains_map_versionless {seen : List String} (known : ∀ name ∈ seen, name ∈ names)
    {name : String} (listed : name ∈ names) :
    (seen.map versionless).contains (versionless name) = seen.contains name := by
  rw [Bool.eq_iff_iff, List.contains_iff_mem, List.contains_iff_mem, List.mem_map]
  constructor
  · intro found
    obtain ⟨other, member, same⟩ := found
    rwa [← once other (known other member) name listed same]
  · exact fun member => ⟨name, member, rfl⟩

/-- Where no property is spelled in two ways, the same criteria are probed in either spelling. -/
theorem Container.positiveCriteria_of_readsAs {criteria others : List Criterion}
    (alike : List.Forall₂ (Criterion.ReadsAs scope names) criteria others) {seen : List String}
    (known : ∀ name ∈ seen, name ∈ names) :
    List.Forall₂ (Criterion.ReadsAs scope names) (positiveCriteria seen criteria)
      (positiveCriteria (seen.map versionless) others) := by
  induction alike generalizing seen with
  | nil => exact .nil
  | @cons criterion other rest others first later ih =>
    match criterion, other with
    | .property criterion, .property second =>
      have reads : criterion.ReadsAs scope names second := first
      have negated : (Criterion.property second).isNegated =
          (Criterion.property criterion).isNegated := reads.negated
      have looked := contains_map_versionless once known reads.listed
      rw [positiveCriteria, positiveCriteria, negated, reads.comparator, reads.property, looked]
      split
      next => exact ih known
      next =>
        split
        next => exact ih known
        next =>
          exact .cons first (ih (List.forall_mem_cons.2 ⟨reads.listed, known⟩))
    | .type criterion, .type second =>
      have reads : criterion.ReadsAs scope second := first
      have negated : (Criterion.type second).isNegated = (Criterion.type criterion).isNegated :=
        reads.negated
      rw [positiveCriteria, positiveCriteria, negated]
      split
      next => exact ih known
      next => exact .cons first (ih known)
    | .property _, .type _ | .type _, .property _ => cases first

end Probes

theorem Element.AllCorrespond.criteria {related : Criterion → Criterion → Prop}
    (connective : Connective) {elements others : List Element}
    (alike : AllCorrespond related elements others) :
    List.Forall₂ related (Container.criteria ⟨connective, elements⟩)
      (Container.criteria ⟨connective, others⟩) := by
  induction elements generalizing others with
  | nil =>
    cases others with
    | nil => exact .nil
    | cons => cases alike
  | cons element rest ih =>
    cases others with
    | nil => cases alike
    | cons other others =>
      obtain ⟨first, later⟩ := alike
      have remaining := ih later
      cases element <;> cases other
      · exact .cons first remaining
      · cases first
      · cases first
      · exact remaining

/-- A search is blind to how names are spelled, as long as a search that probes does not meet one
property in two spellings. -/
theorem SegmentScope.isBlindTo_readsAs {scope : SegmentScope} {names : List String}
    (once : scope.probing = true → AreSpelledOnce names) :
    scope.IsBlindTo (Criterion.ReadsAs scope names) where
  leaf reads fold := reads.agree_leafCondition fold
  probe reads := reads.probeCondition ▸ agree_self _
  isSetNegation reads := reads.isSetNegation
  wanted {connective} _ _ alike := by
    unfold Fold.wanted
    split
    next folding =>
      cases connective with
      | or => rfl
      | and =>
        unfold Fold.ofAnd
        dsimp only
        rw [Fold.Progress.mergeAll_eq_of_readsAs alike folding]
    next => rfl
  typesWanted {connective} _ _ alike := by
    unfold Fold.typesWanted
    split
    next folding => exact Fold.ofTypes_eq_of_readsAs alike folding connective
    next => rfl
  probes {elements others} alike probing := by
    have probed := Container.positiveCriteria_of_readsAs (once probing)
      (Element.AllCorrespond.criteria .and alike) (List.forall_mem_nil _)
    rw [List.map_nil] at probed
    unfold Container.probes
    dsimp only
    generalize Container.positiveCriteria [] _ = first at probed ⊢
    generalize Container.positiveCriteria _ _ = second at probed ⊢
    cases probed with
    | nil => exact .nil
    | cons head rest =>
      cases rest with
      | nil => exact .nil
      | cons next later => exact .cons head (.cons next later)

/-- What a search finds for criteria as they are given. -/
def SegmentScope.matching (scope : SegmentScope) (mode : ExecutionMode) (database : Database)
    (raw : Container) : Except Error UriSet := do
  let criteria ← raw.normalize scope.registry
  (scope.search mode criteria).run database

/-- A search finds the same for criteria in the current vocabulary as for the criteria as they are
spelled, or fails for both. -/
theorem SegmentScope.matching_current (scope : SegmentScope) (mode : ExecutionMode)
    (database : Database) (raw : Container)
    (transparent : raw.Every (Criterion.IsTransparent scope))
    (once : scope.probing = true → AreSpelledOnce (Element.propertiesAll raw.elements)) :
    Agree (· = ·) (scope.matching mode database raw)
      (scope.matching mode database raw.current) :=
  (Container.agree_normalize_current transparent).bind fun _ _ alike =>
    (isBlindTo_readsAs once).search alike mode

/-- A class and a property are asked for in an older version, and probed. -/
theorem SegmentScope.matching_current_versioned :
    let scope : SegmentScope := ⟨⟨.core, .sqlite⟩, "notes", 0, true, false⟩
    let object : GraphObject := (GraphObject.ofClass "urn:a" Vocabulary.nodeClass).set
      Vocabulary.hasTimestamp (.single (.long 7))
    let rows := (GraphObject.allToRows .core [object]).toOption.getD []
    let database := Database.ofTable "notes" (rows.map .ofRow)
    let raw : Container :=
      ⟨.and, [.leaf (.type
          ⟨["http://vital.ai/ontology/vital-core_v0_1_0#VITAL_Node"], .eq, false, false⟩),
        .leaf (.property ⟨"http://vital.ai/ontology/vital-core_v0_1_0#hasTimestamp", .ge,
          some (.single (.long 5)), false, false, []⟩)]⟩
    GraphObject.allToRows .core [object] = .ok rows ∧
      raw.Every (Criterion.IsTransparent scope) ∧
      AreSpelledOnce (Element.propertiesAll raw.elements) ∧
      scope.matching .singleStatement database raw.current = .ok ["urn:a"] ∧
      scope.matching .singleStatement database raw = .ok ["urn:a"] := by
  intro scope object rows database raw
  have current : scope.matching .singleStatement database raw.current = .ok ["urn:a"] :=
    eq_ok_of_toOption (by decide +kernel)
  have type : TypeCriterion.IsTransparent scope
      ⟨["http://vital.ai/ontology/vital-core_v0_1_0#VITAL_Node"], .eq, false, false⟩ :=
    ⟨by decide +kernel, fun expands => absurd expands (by decide),
      fun folding => absurd folding (by decide)⟩
  have property : PropertyCriterion.IsTransparent scope
      ⟨"http://vital.ai/ontology/vital-core_v0_1_0#hasTimestamp", .ge,
        some (.single (.long 5)), false, false, []⟩ :=
    ⟨by decide +kernel, fun same => absurd same (by decide +kernel), by decide +kernel,
      by decide +kernel, fun expands => absurd expands (by decide),
      fun folding => absurd folding (by decide)⟩
  have transparent : raw.Every (Criterion.IsTransparent scope) := ⟨type, property, trivial⟩
  have once : AreSpelledOnce (Element.propertiesAll raw.elements) := by
    simp [raw, Element.propertiesAll, Element.properties, AreSpelledOnce]
  have agree := matching_current scope .singleStatement database raw transparent fun _ => once
  rw [current] at agree
  exact ⟨eq_ok_of_toOption (by decide +kernel), transparent, once, current, agree.eq_ok⟩

/-- A fold compares the classes of objects with types as they are spelled, and a class that is
asked for in an older version is not found. -/
theorem SegmentScope.folding_loses_versioned_class :
    let scope : SegmentScope := ⟨⟨.core, .sqlite⟩, "notes", 0, false, true⟩
    let object := GraphObject.ofClass "urn:a" Vocabulary.nodeClass
    let rows := (GraphObject.allToRows .core [object]).toOption.getD []
    let database := Database.ofTable "notes" (rows.map .ofRow)
    let raw : Container :=
      ⟨.and, [.leaf (.type
        ⟨["http://vital.ai/ontology/vital-core_v0_1_0#VITAL_Node"], .eq, false, false⟩)]⟩
    GraphObject.allToRows .core [object] = .ok rows ∧
      scope.matching .setAlgebra database raw = .ok [] ∧
      scope.matching .setAlgebra database raw.current = .ok ["urn:a"] := by
  intro scope object rows database raw
  exact ⟨eq_ok_of_toOption (by decide +kernel), eq_ok_of_toOption (by decide +kernel),
    eq_ok_of_toOption (by decide +kernel)⟩

end GraphSegments
