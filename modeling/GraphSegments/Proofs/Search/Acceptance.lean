import GraphSegments.Proofs.Search.Folds

/-!
Which containers have a fold. Elements are merged from left to right: a container among them ends
the merging, and a type criterion that does not go with an earlier one is refused. Which comes first
decides, so the order of the elements matters exactly if there are a container and types that are
admitted as well as ones that are excluded.
-/

namespace GraphSegments
open Results

namespace Element

def isNested : Element → Bool
  | .leaf _ => false
  | .nested .. => true

/-- The criteria in front of the first container. -/
def leading : List Element → List Criterion
  | .leaf criterion :: rest => criterion :: leading rest
  | _ => []

theorem leaf_of_mem_leading {criterion : Criterion} {elements : List Element}
    (member : criterion ∈ leading elements) : .leaf criterion ∈ elements := by
  induction elements with
  | nil => exact absurd member List.not_mem_nil
  | cons element rest ih =>
    cases element with
    | leaf first =>
      rcases List.mem_cons.1 member with rfl | later
      · exact List.mem_cons_self
      · exact List.mem_cons_of_mem _ (ih later)
    | nested connective inner => exact absurd member List.not_mem_nil

/-- All criteria of a part without containers come before the containers that follow. -/
theorem mem_leading_append {criterion : Criterion} {front : List Element} (rest : List Element)
    (flat : ∀ element ∈ front, element.isNested = false) (member : .leaf criterion ∈ front) :
    criterion ∈ leading (front ++ rest) := by
  induction front with
  | nil => exact absurd member List.not_mem_nil
  | cons element others ih =>
    obtain ⟨here, later⟩ := List.forall_mem_cons.1 flat
    cases element with
    | nested connective inner => exact absurd here (by simp [isNested])
    | leaf first =>
      rcases List.mem_cons.1 member with same | among
      · exact Element.leaf.inj same ▸ List.mem_cons_self
      · exact List.mem_cons_of_mem _ (ih later among)

theorem leading_nested (rest : List Element) {front : List Element}
    (nested : ∀ element ∈ front, element.isNested = true) (some : front ≠ []) :
    leading (front ++ rest) = [] := by
  cases front with
  | nil => exact absurd rfl some
  | cons element others =>
    cases element with
    | leaf first => exact absurd (nested _ List.mem_cons_self) (by simp [isNested])
    | nested connective inner => rfl

end Element

namespace Criterion

/-- Whether there is a type criterion that admits its types, or one that excludes them. -/
def AnyType (criteria : List Criterion) (inclusive : Bool) : Prop :=
  ∃ criterion : TypeCriterion, .type criterion ∈ criteria ∧ criterion.isInclusive = inclusive

/-- Whether types are admitted as well as excluded. -/
def MixTypes (criteria : List Criterion) : Prop := AnyType criteria true ∧ AnyType criteria false

theorem AnyType.mono {criteria others : List Criterion} {inclusive : Bool}
    (within : ∀ criterion ∈ criteria, criterion ∈ others) (any : AnyType criteria inclusive) :
    AnyType others inclusive := by
  obtain ⟨criterion, member, same⟩ := any
  exact ⟨criterion, within _ member, same⟩

theorem MixTypes.mono {criteria others : List Criterion}
    (within : ∀ criterion ∈ criteria, criterion ∈ others) (mix : MixTypes criteria) :
    MixTypes others :=
  ⟨mix.1.mono within, mix.2.mono within⟩

end Criterion

namespace Container

def Nests (container : Container) : Prop :=
  ∃ element ∈ container.elements, element.isNested = true

/-- Whether the criteria directly in a container admit types as well as exclude them. -/
def MixesTypes (container : Container) : Prop := Criterion.MixTypes container.criteria

end Container

namespace Fold

namespace Progress

/-- Whether types are admitted, or excluded, by what has been merged or by criteria to come. -/
def Takes (progress : Progress) (criteria : List Criterion) (inclusive : Bool) : Prop :=
  progress.inclusive = some inclusive ∨ Criterion.AnyType criteria inclusive

theorem takes_nil {progress : Progress} {inclusive : Bool} :
    progress.Takes [] inclusive ↔ progress.inclusive = some inclusive := by
  simp [Takes, Criterion.AnyType]

theorem takes_start {criteria : List Criterion} {inclusive : Bool} :
    start.Takes criteria inclusive ↔ Criterion.AnyType criteria inclusive := by
  simp [Takes, start]

variable {progress next final : Progress} {place : Nat} {criterion : Criterion}
  {elements : List Element}

/-- A type criterion is merged where it goes with the earlier ones, and then it is covered. -/
theorem mergeType_eq_ok {criterion : TypeCriterion}
    (merged : progress.mergeType place criterion = .ok next) :
    (progress.inclusive = none ∨ progress.inclusive = some criterion.isInclusive) ∧
      next.inclusive = some criterion.isInclusive ∧ next.covered = progress.covered ++ [place] := by
  unfold mergeType at merged
  dsimp only at merged
  split at merged
  next => exact absurd merged (by simp)
  next alike =>
    refine ⟨?_, ?_⟩
    · cases known : progress.inclusive with
      | none => exact .inl rfl
      | some inclusive => simpa [known] using alike
    · cases kind : criterion.isInclusive <;> simp only [kind] at merged <;>
        exact Except.ok.inj merged ▸ ⟨rfl, rfl⟩

theorem mergeType_eq_error {criterion : TypeCriterion} {error : Error}
    (refused : progress.mergeType place criterion = .error error) :
    progress.inclusive = some !criterion.isInclusive := by
  unfold mergeType at refused
  dsimp only at refused
  split at refused
  next mixed =>
    cases known : progress.inclusive with
    | none => simp [known] at mixed
    | some before =>
      cases before <;> cases kind : criterion.isInclusive <;> simp_all
  next => exact absurd refused (by split <;> simp)

/-- Only criteria on types decide whether types are admitted. -/
theorem inclusive_of_merge_property {criterion : PropertyCriterion}
    (merged : progress.merge place (.property criterion) = .ok next) :
    next.inclusive = progress.inclusive := by
  obtain rfl := Except.ok.inj merged
  split
  next =>
    unfold mergeChannel
    split
    · rfl
    · split <;> rfl
  next =>
    split
    next =>
      unfold mergeTimestamp
      split
      · rfl
      · split
        any_goals rfl
        all_goals split <;> rfl
    next => rfl

/-- A criterion that is merged passes what it says on to what has been merged. -/
theorem takes_merge (merged : progress.merge place criterion = .ok next)
    (criteria : List Criterion) (inclusive : Bool) :
    next.Takes criteria inclusive ↔ progress.Takes (criterion :: criteria) inclusive := by
  cases criterion with
  | property criterion =>
    simp [Takes, Criterion.AnyType, inclusive_of_merge_property merged]
  | type criterion =>
    obtain ⟨before, here, -⟩ := mergeType_eq_ok (merged : progress.mergeType place criterion = _)
    simp only [Takes, Criterion.AnyType, here, List.mem_cons, Criterion.type.injEq,
      Option.some.injEq]
    rcases before with none | same <;> simp_all [or_and_right, exists_or]

/-- A criterion is refused only where types are taken both ways. -/
theorem takes_of_merge_error {error : Error}
    (refused : progress.merge place criterion = .error error) (criteria : List Criterion)
    (inclusive : Bool) : progress.Takes (criterion :: criteria) inclusive := by
  cases criterion with
  | property criterion => exact absurd refused (by simp [merge])
  | type criterion =>
    have before := mergeType_eq_error (refused : progress.mergeType place criterion = _)
    by_cases same : criterion.isInclusive = inclusive
    · exact .inr ⟨criterion, List.mem_cons_self, same⟩
    · exact .inl (by rw [before, Bool.eq_not.2 (Ne.symm same)])

/-- Elements are refused if types are taken both ways before the first container. -/
theorem mergeAll_eq_error_iff : (∃ error, progress.mergeAll place elements = .error error) ↔
    progress.Takes (Element.leading elements) true ∧
      progress.Takes (Element.leading elements) false := by
  have never (progress : Progress) : ¬ (progress.Takes [] true ∧ progress.Takes [] false) := by
    intro both
    rw [takes_nil, takes_nil] at both
    exact absurd (both.1.symm.trans both.2) (by simp)
  induction elements generalizing progress place with
  | nil => exact iff_of_false (by simp [mergeAll]) (never _)
  | cons element rest ih =>
    cases element with
    | nested connective inner => exact iff_of_false (by simp [mergeAll]) (never _)
    | leaf criterion =>
      rw [mergeAll, Element.leading]
      cases merged : progress.merge place criterion with
      | error error =>
        exact iff_of_true ⟨error, rfl⟩
          ⟨takes_of_merge_error merged _ true, takes_of_merge_error merged _ false⟩
      | ok next =>
        rw [ok_bind, ← takes_merge merged, ← takes_merge merged]
        exact ih

/-- The merging of elements that are not refused ends at a container, if there is one. -/
theorem eq_none_of_mergeAll {result : Option Progress}
    (ran : progress.mergeAll place elements = .ok result) :
    result = none ↔ ∃ element ∈ elements, element.isNested = true := by
  induction elements generalizing progress place with
  | nil =>
    obtain rfl := Except.ok.inj ran
    simp
  | cons element rest ih =>
    cases element with
    | nested connective inner =>
      obtain rfl := Except.ok.inj ran
      simp [Element.isNested]
    | leaf criterion =>
      obtain ⟨next, -, ran⟩ := bind_eq_ok.1 ran
      rw [ih ran]
      simp [Element.isNested]

/-- As long as nothing is covered, no channel and no bound has been merged. -/
def Idle (progress : Progress) : Prop :=
  progress.covered = [] → progress.channel = none ∧ progress.min = none ∧ progress.max = none

/-- What merging a criterion does to the places covered: there are some once there is a criterion
that a fold can cover. -/
structure Counts (progress : Progress) (criterion : Criterion) (next : Progress) : Prop where
  idle : next.Idle
  covered : next.covered = [] ↔ progress.covered = [] ∧ criterion.echo? = none

theorem counts_unchanged (idle : progress.Idle)
    (left : progress.covered = [] → criterion.echo? = none) (warnings : List FoldWarning) :
    progress.Counts criterion { progress with warnings := warnings } where
  idle := idle
  covered := ⟨fun none => ⟨none, left none⟩, And.left⟩

theorem counts_covered (echoed : criterion.echo?.isSome = true)
    (covered : next.covered = progress.covered ++ [place]) : progress.Counts criterion next where
  idle none := absurd none (by simp [covered])
  covered := by
    constructor
    · exact fun none => absurd none (by simp [covered])
    · exact fun none => absurd echoed (by simp [none.2])

theorem counts_mergeChannel (idle : progress.Idle) {criterion : PropertyCriterion}
    (same : criterion.property = Vocabulary.hasChannel) :
    progress.Counts (.property criterion) (progress.mergeChannel place criterion) := by
  have echoed : (Criterion.property criterion).echo?.isSome =
      criterion.comparator.isMembership := by
    rw [Criterion.echo?, if_pos same]
    split <;> simp_all
  unfold mergeChannel
  split
  next taken => exact counts_unchanged idle (fun none => by simp [(idle none).1] at taken) _
  next =>
    split
    next other => exact counts_unchanged idle (fun _ => by simp_all) _
    next membership => exact counts_covered (by simpa [echoed] using membership) rfl

theorem counts_mergeTimestamp (idle : progress.Idle) {criterion : PropertyCriterion}
    (same : criterion.property = Vocabulary.hasTimestamp) :
    progress.Counts (.property criterion) (progress.mergeTimestamp place criterion) := by
  have other : criterion.property ≠ Vocabulary.hasChannel := same ▸ by decide
  have echoed : (Criterion.property criterion).echo?.isSome =
      ((criterion.values.head?.bind instant?).isSome && criterion.comparator.bound?.isSome) := by
    rw [Criterion.echo?, if_neg other, if_pos same]
    cases criterion.values.head?.bind instant? <;> cases criterion.comparator.bound? <;> rfl
  unfold mergeTimestamp
  cases operand : criterion.values.head?.bind instant? with
  | none => exact counts_unchanged idle (fun _ => by simpa [operand] using echoed) _
  | some instant =>
    cases comparator : criterion.comparator with
    | ge | gt =>
      dsimp only
      split
      next taken => exact counts_unchanged idle (fun none => by simp [(idle none).2.1] at taken) _
      next => exact counts_covered (by simp [echoed, operand, comparator, Comparator.bound?]) rfl
    | le | lt =>
      dsimp only
      split
      next taken => exact counts_unchanged idle (fun none => by simp [(idle none).2.2] at taken) _
      next => exact counts_covered (by simp [echoed, operand, comparator, Comparator.bound?]) rfl
    | _ =>
      refine counts_unchanged idle (fun _ => ?_) _
      simpa [comparator, Comparator.bound?] using echoed

theorem counts_merge (idle : progress.Idle) (merged : progress.merge place criterion = .ok next) :
    progress.Counts criterion next := by
  cases criterion with
  | type criterion =>
    obtain ⟨-, -, covered⟩ := mergeType_eq_ok (merged : progress.mergeType place criterion = _)
    refine counts_covered ?_ covered
    rw [Criterion.echo?]
    split <;> rfl
  | property criterion =>
    obtain rfl := Except.ok.inj merged
    split
    next same => exact counts_mergeChannel idle same
    next other =>
      split
      next same => exact counts_mergeTimestamp idle same
      next neither =>
        exact counts_unchanged idle (fun _ => by simp [Criterion.echo?, other, neither]) _

/-- Nothing is covered only if none of the criteria can be. -/
theorem covered_of_mergeAll (idle : progress.Idle)
    (ran : progress.mergeAll place elements = .ok (some final)) :
    final.covered = [] ↔ progress.covered = [] ∧
      ∀ criterion, .leaf criterion ∈ elements → criterion.echo? = none := by
  induction elements generalizing progress place with
  | nil =>
    obtain rfl := Option.some.inj (Except.ok.inj ran)
    simp
  | cons element rest ih =>
    cases element with
    | nested connective inner => exact absurd (Except.ok.inj ran) (by simp)
    | leaf criterion =>
      obtain ⟨next, merged, ran⟩ := bind_eq_ok.1 ran
      have counts := counts_merge idle merged
      rw [ih counts.idle ran, counts.covered]
      simp [and_assoc]

theorem finish?_eq_none_iff : progress.finish? = none ↔ progress.covered = [] := by
  unfold finish?
  split <;> simp_all

end Progress

/-- The fold of an AND container is refused if types are admitted as well as excluded before the
first container among its elements. -/
theorem ofAnd_eq_error_iff {elements : List Element} :
    (∃ error, ofAnd ⟨.and, elements⟩ = .error error) ↔
      Criterion.MixTypes (Element.leading elements) := by
  have merging : (∃ error, Progress.start.mergeAll 0 elements = .error error) ↔ _ :=
    Progress.mergeAll_eq_error_iff
  rw [Progress.takes_start, Progress.takes_start] at merging
  rw [Criterion.MixTypes, ← merging]
  cases ran : Progress.start.mergeAll 0 elements <;> simp [ofAnd, ran]

/-- An AND container that is not refused has no fold if there is a container among its elements, or
nothing that a fold can cover. -/
theorem ofAnd_eq_none_iff {elements : List Element} :
    ofAnd ⟨.and, elements⟩ = .ok none ↔ ¬ Criterion.MixTypes (Element.leading elements) ∧
      ((∃ element ∈ elements, element.isNested = true) ∨
        ∀ criterion, .leaf criterion ∈ elements → criterion.echo? = none) := by
  rw [← ofAnd_eq_error_iff]
  cases ran : Progress.start.mergeAll 0 elements with
  | error error => simp [ofAnd, ran]
  | ok result =>
    have nested := Progress.eq_none_of_mergeAll ran
    rw [← nested]
    cases result with
    | none => simp [ofAnd, ran]
    | some final =>
      have covered := Progress.covered_of_mergeAll (fun _ => ⟨rfl, rfl, rfl⟩) ran
      have none : Progress.start.covered = [] := rfl
      rw [← Progress.finish?_eq_none_iff, and_iff_right none] at covered
      simp [ofAnd, ran, covered]

/-! A criterion on its own. -/

section Alone

variable {criterion : PropertyCriterion}

/-- A criterion on its own that no row tells of has no fold. -/
theorem ofAnd_alone_eq_none (untold : (Criterion.property criterion).echo? = none) :
    ofAnd ⟨.and, [.leaf (.property criterion)]⟩ = .ok none := by
  refine ofAnd_eq_none_iff.2 ⟨fun mixed => ?_, .inr fun other listed => ?_⟩
  · obtain ⟨⟨type, member, -⟩, -⟩ := mixed
    exact absurd (List.mem_singleton.1 member) (by simp)
  · obtain rfl := Element.leaf.inj (List.mem_singleton.1 listed)
    exact untold

/-- What is merged of a criterion on its own is what a row tells of it. -/
theorem Progress.exists_merge_start {echo : Condition}
    (told : (Criterion.property criterion).echo? = some echo) :
    ∃ min max channel, start.merge 0 (.property criterion) =
        .ok ⟨none, none, [], min, max, channel, [0], []⟩ ∧
      (channel.map channelCondition).toList ++ (min.map (boundCondition .ge .gt)).toList ++
        (max.map (boundCondition .le .lt)).toList = [echo] := by
  rcases Criterion.echo?_property told with
    ⟨same, membership, rfl⟩ | ⟨same, instant, comparison, operand, bound, rfl⟩
  · refine ⟨none, none, some _, ?_, rfl⟩
    rw [merge, if_pos same, mergeChannel, membership]
    rfl
  · have other : criterion.property ≠ Vocabulary.hasChannel := same ▸ by decide
    rw [merge, if_neg other, if_pos same, mergeTimestamp, operand]
    cases comparator : criterion.comparator <;> rw [comparator] at bound
    case ge | gt => exact ⟨some _, none, none, rfl, Option.some.inj bound ▸ rfl⟩
    case le | lt => exact ⟨none, some _, none, rfl, Option.some.inj bound ▸ rfl⟩
    all_goals exact absurd bound (by simp [Comparator.bound?])

/-- A criterion on its own that a fold can cover has a fold that asks what a row tells of it. -/
theorem exists_ofAnd_alone {echo : Condition}
    (told : (Criterion.property criterion).echo? = some echo) :
    ∃ fold, ofAnd ⟨.and, [.leaf (.property criterion)]⟩ = .ok (some fold) ∧
      fold.covered = [0] ∧ fold.unsatisfiable = false ∧ fold.condition = .all [echo] := by
  obtain ⟨min, max, channel, merged, asked⟩ := Progress.exists_merge_start told
  refine ⟨⟨[], false, false, min, max, channel, [0], []⟩, ?_, rfl, rfl,
    congrArg Condition.all asked⟩
  simp [ofAnd, Progress.mergeAll, merged, Progress.finish?, ascending]

end Alone

/-- Whether two results are errors both or neither, and no fold both or neither. -/
def AcceptedAlike (first second : Except Error (Option Fold)) : Prop :=
  ((∃ error, first = .error error) ↔ ∃ error, second = .error error) ∧
    (first = .ok none ↔ second = .ok none)

variable {elements others : List Element}

/-- What decides about a fold does not depend on the order of the elements, as long as the criteria
in front of the first container tell whether all of them go together. -/
theorem acceptedAlike_of_perm (permuted : others.Perm elements)
    (alike : Criterion.MixTypes (Element.leading others) ↔
      Criterion.MixTypes (Element.leading elements)) :
    AcceptedAlike (ofAnd ⟨.and, others⟩) (ofAnd ⟨.and, elements⟩) := by
  refine ⟨by rw [ofAnd_eq_error_iff, ofAnd_eq_error_iff, alike], ?_⟩
  rw [ofAnd_eq_none_iff, ofAnd_eq_none_iff, alike]
  simp only [permuted.mem_iff]

theorem mixesTypes_of_leading (permuted : others.Perm elements)
    (mix : Criterion.MixTypes (Element.leading others)) : Container.MixesTypes ⟨.and, elements⟩ :=
  mix.mono fun _ member =>
    Container.mem_criteria.2 (permuted.mem_iff.1 (Element.leaf_of_mem_leading member))

/-- With all criteria in front, what they mix is refused. -/
theorem exists_perm_error (mixes : Container.MixesTypes ⟨.and, elements⟩) :
    ∃ others, others.Perm elements ∧ ∃ error, ofAnd ⟨.and, others⟩ = .error error := by
  refine ⟨elements.filter (!·.isNested) ++ elements.filter fun element => !!element.isNested,
    List.filter_append_perm _ elements,
    ofAnd_eq_error_iff.2 (mixes.mono fun criterion listed => ?_)⟩
  refine Element.mem_leading_append _ (fun element member => ?_) ?_
  · simpa using (List.mem_filter.1 member).2
  · exact List.mem_filter.2 ⟨Container.mem_criteria.1 listed, rfl⟩

/-- With the containers in front, nothing is refused. -/
theorem exists_perm_none (nests : Container.Nests ⟨.and, elements⟩) :
    ∃ others, others.Perm elements ∧ ofAnd ⟨.and, others⟩ = .ok none := by
  have permuted := List.filter_append_perm Element.isNested elements
  obtain ⟨element, member, nested⟩ := nests
  refine ⟨_, permuted, ofAnd_eq_none_iff.2
    ⟨?_, .inl ⟨element, permuted.mem_iff.2 member, nested⟩⟩⟩
  rw [Element.leading_nested _ (fun element member => (List.mem_filter.1 member).2)
    (List.ne_nil_of_mem (List.mem_filter.2 ⟨member, nested⟩))]
  simp [Criterion.MixTypes, Criterion.AnyType]

/-- Whether an AND container is refused, or has no fold, does not depend on the order of its
elements exactly if there is no container among them or the types of its criteria are all admitted
or all excluded. With a container among its elements there is never a fold, and it is never refused
exactly in the latter case. -/
theorem acceptance_ignores_order_iff (elements : List Element) :
    ((∀ others, others.Perm elements →
        AcceptedAlike (ofAnd ⟨.and, others⟩) (ofAnd ⟨.and, elements⟩)) ↔
      ¬ (Container.Nests ⟨.and, elements⟩ ∧ Container.MixesTypes ⟨.and, elements⟩)) ∧
    (Container.Nests ⟨.and, elements⟩ →
      ((∀ others, others.Perm elements → ofAnd ⟨.and, others⟩ = .ok none) ↔
        ¬ Container.MixesTypes ⟨.and, elements⟩)) := by
  have unmixed (whole : ¬ Container.MixesTypes ⟨.and, elements⟩) {others : List Element}
      (permuted : others.Perm elements) : ¬ Criterion.MixTypes (Element.leading others) :=
    fun mix => whole (mixesTypes_of_leading permuted mix)
  refine ⟨⟨fun alike both => ?_, fun apart others permuted => ?_⟩,
    fun nests => ⟨fun none mixes => ?_, fun whole others permuted => ?_⟩⟩
  · obtain ⟨nests, mixes⟩ := both
    obtain ⟨criteriaFirst, permuted, refused⟩ := exists_perm_error mixes
    obtain ⟨containersFirst, rearranged, accepted⟩ := exists_perm_none nests
    obtain ⟨error, refused⟩ := (alike criteriaFirst permuted).1.1 refused
    rw [(alike containersFirst rearranged).2.1 accepted] at refused
    exact absurd refused (by simp)
  · refine acceptedAlike_of_perm permuted ?_
    by_cases mixes : Container.MixesTypes ⟨.and, elements⟩
    · -- Without a container all criteria are in front of it, in any order.
      have flat : ∀ element ∈ elements, element.isNested = false := fun element member =>
        Bool.eq_false_iff.2 fun nested => apart ⟨⟨element, member, nested⟩, mixes⟩
      have mixed {others : List Element} (permuted : others.Perm elements) :
          Criterion.MixTypes (Element.leading others) := mixes.mono fun criterion listed => by
        have own := permuted.mem_iff.2 (Container.mem_criteria.1 listed)
        simpa using Element.mem_leading_append [] (fun element member =>
          flat element (permuted.mem_iff.1 member)) own
      exact iff_of_true (mixed permuted) (mixed (.refl _))
    · exact iff_of_false (unmixed mixes permuted) (unmixed mixes (.refl _))
  · obtain ⟨others, permuted, error, refused⟩ := exists_perm_error mixes
    exact absurd (none others permuted ▸ refused) (by simp)
  · obtain ⟨element, member, nested⟩ := nests
    exact ofAnd_eq_none_iff.2 ⟨unmixed whole permuted,
      .inl ⟨element, permuted.mem_iff.2 member, nested⟩⟩

/-- A container among criteria that go together leaves them without a fold wherever it stands. -/
theorem acceptance_ignores_order_iff_admitting :
    let elements : List Element := [.leaf (.type ⟨["urn:A"], .eq, false, false⟩), .nested .or [],
      .leaf (.type ⟨["urn:B"], .oneOf, false, false⟩)]
    Container.Nests ⟨.and, elements⟩ ∧
      ∀ others, others.Perm elements → ofAnd ⟨.and, others⟩ = .ok none := by
  intro elements
  have nests : Container.Nests ⟨.and, elements⟩ := ⟨.nested .or [], by simp [elements], rfl⟩
  have whole : ¬ Container.MixesTypes ⟨.and, elements⟩ := by
    intro mixes
    obtain ⟨-, criterion, listed, exclusive⟩ := mixes
    simp only [Container.criteria, elements, List.filterMap_cons, List.filterMap_nil, List.mem_cons,
      Criterion.type.injEq, List.not_mem_nil, or_false] at listed
    rcases listed with rfl | rfl <;> exact absurd exclusive (by decide)
  exact ⟨nests, ((acceptance_ignores_order_iff elements).2 nests).2 whole⟩

/-- A container behind criteria that do not go together comes too late. -/
theorem container_comes_too_late :
    let admits := Element.leaf (.type ⟨["urn:A"], .eq, false, false⟩)
    let excludes := Element.leaf (.type ⟨["urn:B"], .ne, false, false⟩)
    ofAnd ⟨.and, [admits, excludes, .nested .or []]⟩ = .error (.query .mixedTypeComparators) ∧
      ofAnd ⟨.and, [.nested .or [], admits, excludes]⟩ = .ok none :=
  ⟨rfl, rfl⟩

end Fold

end GraphSegments
