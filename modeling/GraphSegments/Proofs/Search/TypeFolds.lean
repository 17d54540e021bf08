import GraphSegments.Proofs.Search.Acceptance
import GraphSegments.Proofs.Search.Echoes
import Mathlib.Logic.Basic

/-!
Type folds and the criteria that they replace. A fold takes all the types that its criteria name,
but a criterion on its own that compares by EQ or NE looks at the first of them only. So the two
mean the same exactly if the types that no criterion looks at make no difference.
-/

namespace GraphSegments
open Results

namespace TypeCriterion

/-- Whether a record satisfies the condition that a criterion is. -/
def Accepts (patterns : Patterns) (records : List Record) (record : Record)
    (criterion : TypeCriterion) : Prop :=
  ∃ condition, criterion.condition = .ok condition ∧
    condition.holds patterns records record = true

variable {patterns : Patterns} {records : List Record} {record : Record}
  {criterion : TypeCriterion}

theorem accepts_iff (normal : criterion.IsNormal) :
    criterion.Accepts patterns records record ↔
      (criterion.isInclusive = true ↔ record.vitaltype ∈ criterion.compared) := by
  obtain ⟨condition, compiled⟩ := exists_condition normal
  simp [Accepts, compiled, holds_condition compiled]

/-- The criteria as the elements of a container. -/
def elements (criteria : List TypeCriterion) : List Element :=
  criteria.map fun criterion => .leaf (.type criterion)

/-- Whether what some criterion names is also compared by some. -/
def ComparesAny (criteria : List TypeCriterion) : Prop :=
  ∀ type, (∃ criterion ∈ criteria, type ∈ criterion.types) →
    ∃ criterion ∈ criteria, type ∈ criterion.compared

/-- Whether what all criteria name is also compared by all. -/
def ComparesAll (criteria : List TypeCriterion) : Prop :=
  ∀ type, (∀ criterion ∈ criteria, type ∈ criterion.types) →
    ∀ criterion ∈ criteria, type ∈ criterion.compared

/-- Whether all types that a criterion names are spelled in the current vocabulary. -/
def IsCurrent (criterion : TypeCriterion) : Prop :=
  ∀ type ∈ criterion.types, versionless type = type

theorem mem_types_of_mem_compared (current : criterion.IsCurrent) {type : String}
    (listed : type ∈ criterion.compared) : type ∈ criterion.types := by
  obtain ⟨named, member, rfl⟩ := exists_of_mem_compared listed
  rwa [current named member]

/-- A criterion that compares all types that it names accepts records by them. -/
theorem accepts_of_settled (normal : criterion.IsNormal)
    (settled : (Criterion.type criterion).IsSettled) :
    criterion.Accepts patterns records record ↔
      (criterion.isInclusive = true ↔ record.vitaltype ∈ criterion.types) := by
  rw [accepts_iff normal, compared_of_settled normal settled]

theorem accepts_oneOf {types : List String} (named : types ≠ [])
    (current : ∀ type ∈ types, versionless type = type) :
    (oneOf types).Accepts patterns records record ↔ record.vitaltype ∈ types := by
  rw [accepts_of_settled ⟨rfl, rfl, named⟩ ⟨by simp [oneOf], current⟩]
  simp [isInclusive, oneOf]

theorem accepts_noneOf {types : List String} (named : types ≠ [])
    (current : ∀ type ∈ types, versionless type = type) :
    (noneOf types).Accepts patterns records record ↔ record.vitaltype ∉ types := by
  rw [accepts_of_settled ⟨rfl, rfl, named⟩ ⟨by simp [noneOf], current⟩]
  simp [isInclusive, noneOf]

variable {criteria : List TypeCriterion}

/-- Where EQ and NE name one type each, nothing that is named is left out. -/
theorem compares_of_single (normal : ∀ criterion ∈ criteria, criterion.IsNormal)
    (current : ∀ criterion ∈ criteria, criterion.IsCurrent)
    (single : ∀ criterion ∈ criteria, criterion.comparator = .eq ∨ criterion.comparator = .ne →
      ∃ type, criterion.types = [type]) :
    ComparesAny criteria ∧ ComparesAll criteria := by
  have compared (criterion) (member : criterion ∈ criteria) :
      criterion.compared = criterion.types :=
    compared_of_settled (normal criterion member)
      ⟨single criterion member, current criterion member⟩
  refine ⟨fun type some => ?_, fun type all criterion member => ?_⟩
  · obtain ⟨criterion, member, named⟩ := some
    exact ⟨criterion, member, compared criterion member ▸ named⟩
  · exact compared criterion member ▸ all criterion member

end TypeCriterion

/-- A record of an object of a class. -/
def Record.ofClass (type : String) : Record :=
  .ofRow
    { uri := ""
      name := Vocabulary.vitaltype
      vitaltype := type
      external := false
      tstamp := none
      channel := none
      value := .uri type
      multi := false
      fullText := none }

/-- Records can be of any class. -/
theorem Record.forall_vitaltype_iff {wide narrow : String → Prop}
    (within : ∀ type, narrow type → wide type) :
    (∀ record : Record, wide record.vitaltype ↔ narrow record.vitaltype) ↔
      ∀ type, wide type → narrow type :=
  ⟨fun alike type => (alike (ofClass type)).1, fun all _ => ⟨all _, within _⟩⟩

namespace Fold
open TypeCriterion

variable {criteria : List TypeCriterion}

theorem elements_eq_leaves : elements criteria = (criteria.map Criterion.type).map .leaf := by
  simp [elements]

theorem elements_injective {others : List TypeCriterion}
    (same : elements criteria = elements others) : criteria = others :=
  (List.map_inj_right fun _ _ same => by simpa using same).1 same

/-- An OR container with a type fold compares by EQ only, and the fold takes all that is named. -/
theorem ofTypeOr_elements {folded : TypeCriterion}
    (folds : ofTypeOr ⟨.or, elements criteria⟩ = some folded) :
    (∀ criterion ∈ criteria, criterion.comparator = .eq) ∧
      folded = .oneOf (criteria.flatMap (·.types)) ∧ criteria.flatMap (·.types) ≠ [] := by
  have read : typesWanted true ⟨.or, elements criteria⟩ = some folded := by
    rw [typesWanted, if_pos rfl, ofTypes, folds, Option.some_or]
  obtain ⟨-, named, others, same, ⟨-, all, shape⟩ | ⟨differs, -⟩⟩ := typesWanted_eq_some read
  · obtain rfl := elements_injective same
    exact ⟨all, shape, by rwa [shape] at named⟩
  · exact absurd differs (by simp)

theorem ofTypeNeAnd_elements {folded : TypeCriterion}
    (folds : ofTypeNeAnd ⟨.and, elements criteria⟩ = some folded) :
    (∀ criterion ∈ criteria, criterion.negated = false → criterion.comparator = .ne) ∧
      folded = .noneOf (criteria.flatMap (·.types)) ∧ criteria.flatMap (·.types) ≠ [] := by
  have read : typesWanted true ⟨.and, elements criteria⟩ = some folded := by
    rw [typesWanted, if_pos rfl, ofTypes, folds, ofTypeOr, Option.none_or]
  obtain ⟨-, named, others, same, ⟨differs, -⟩ | ⟨-, all, shape⟩⟩ := typesWanted_eq_some read
  · exact absurd differs (by simp)
  · obtain rfl := elements_injective same
    exact ⟨all, shape, by rwa [shape] at named⟩

/-- Type criteria that are merged are all covered, and all of one kind. -/
theorem Progress.mergeAll_elements {progress final : Progress} {place : Nat}
    (merged : progress.mergeAll place (elements criteria) = .ok (some final)) :
    final.covered = progress.covered ++ List.range' place criteria.length ∧
      (∀ criterion ∈ criteria, final.inclusive = some criterion.isInclusive) ∧
      (progress.inclusive = none ∨ final.inclusive = progress.inclusive) := by
  induction criteria generalizing progress place with
  | nil =>
    obtain rfl := Option.some.inj (Except.ok.inj merged)
    exact ⟨by simp, by simp, .inr rfl⟩
  | cons criterion rest ih =>
    obtain ⟨next, one, merged⟩ := bind_eq_ok.1 merged
    obtain ⟨before, here, covered⟩ :=
      mergeType_eq_ok (one : progress.mergeType place criterion = _)
    obtain ⟨others, alike, kept⟩ := ih merged
    -- What the first criterion has decided, the later ones keep.
    have same : final.inclusive = some criterion.isInclusive := by
      rcases kept with none | kept
      · exact absurd (none.symm.trans here) (by simp)
      · exact kept.trans here
    refine ⟨?_, List.forall_mem_cons.2 ⟨same, alike⟩, before.imp_right fun before => ?_⟩
    · rw [others, covered, List.append_assoc, List.length_cons, List.range'_succ,
        List.singleton_append]
    · rw [same, before]

/-- The fold of type criteria admits what all of them name, or excludes what some of them names. -/
theorem holds_ofAnd_elements {fold : Fold}
    (made : ofAnd ⟨.and, elements criteria⟩ = .ok (some fold)) :
    (∀ criterion ∈ criteria, criterion.isInclusive = fold.admits) ∧
      ∀ patterns records record, fold.condition.holds patterns records record = true ↔
        ∀ criterion ∈ criteria, (fold.admits = true ↔ record.vitaltype ∈ criterion.types) := by
  obtain ⟨progress, merged, finished⟩ := bind_eq_ok.1 made
  obtain ⟨leaves, listed, merges⟩ := merges_of_ofAnd made
  obtain rfl : criteria.map Criterion.type = leaves :=
    (List.map_inj_right fun _ _ same => by simpa using same).1
      (elements_eq_leaves.symm.trans listed)
  cases progress with
  | none => exact absurd (Except.ok.inj finished) (by simp)
  | some final =>
    have finished : final.finish? = some fold := Except.ok.inj finished
    obtain ⟨covered, kinds, -⟩ := Progress.mergeAll_elements merged
    have alike (criterion) (member : criterion ∈ criteria) :
        criterion.isInclusive = fold.admits := by
      unfold Progress.finish? at finished
      split at finished
      next => exact absurd finished (by simp)
      next => simp [← Option.some.inj finished, kinds criterion member]
    have covers (place : Nat) (before : place < criteria.length) : fold.covers place = true := by
      rw [Fold.covers, Progress.covered_finish? finished, List.contains_iff_mem, covered]
      simpa [Progress.start] using before
    refine ⟨alike, fun patterns records record => (merges.holds patterns records record).trans ?_⟩
    constructor
    · intro every criterion member
      obtain ⟨place, before, here⟩ := List.getElem_of_mem member
      have echoes := every (.type criterion, place)
        (List.mem_zipIdx_iff_getElem?.2 (by simp [before, here])) (covers place before)
      rw [← alike criterion member]
      exact Criterion.echoes_type.1 echoes
    · intro every x listed _
      obtain ⟨criterion, member, same⟩ := List.mem_map.1 (List.fst_mem_of_mem_zipIdx listed)
      rw [← same, Criterion.echoes_type, alike criterion member]
      exact every criterion member

theorem isCurrent_flatMap (current : ∀ criterion ∈ criteria, criterion.IsCurrent) :
    ∀ type ∈ criteria.flatMap (·.types), versionless type = type := by
  intro type named
  obtain ⟨criterion, member, named⟩ := List.mem_flatMap.1 named
  exact current criterion member type named

theorem named_of_compared (current : ∀ criterion ∈ criteria, criterion.IsCurrent) (type : String) :
    (∃ criterion ∈ criteria, type ∈ criterion.compared) →
      ∃ criterion ∈ criteria, type ∈ criterion.types := by
  intro some
  obtain ⟨criterion, member, listed⟩ := some
  exact ⟨criterion, member, mem_types_of_mem_compared (current criterion member) listed⟩

/-- Criteria that exclude types together accept what none of them compares. -/
theorem accepts_exclusive (normal : ∀ criterion ∈ criteria, criterion.IsNormal)
    (exclusive : ∀ criterion ∈ criteria, criterion.isInclusive = false)
    (patterns : Patterns) (records : List Record) (record : Record) :
    (∀ criterion ∈ criteria, criterion.Accepts patterns records record) ↔
      ¬ ∃ criterion ∈ criteria, record.vitaltype ∈ criterion.compared := by
  simp only [not_exists, not_and]
  refine forall_congr' fun criterion => forall_congr' fun member => ?_
  simp [accepts_iff (normal criterion member), exclusive criterion member]

section Agreement

variable (normal : ∀ criterion ∈ criteria, criterion.IsNormal)
  (current : ∀ criterion ∈ criteria, criterion.IsCurrent)
include normal current

theorem agrees_ofTypeOr_iff {folded : TypeCriterion}
    (folds : ofTypeOr ⟨.or, elements criteria⟩ = some folded) (patterns : Patterns)
    (records : List Record) :
    (∀ record, folded.Accepts patterns records record ↔
        ∃ criterion ∈ criteria, criterion.Accepts patterns records record) ↔
      ComparesAny criteria := by
  obtain ⟨equal, rfl, some⟩ := ofTypeOr_elements folds
  refine Iff.trans (forall_congr' fun record => iff_congr ?_ ?_)
    (Record.forall_vitaltype_iff (named_of_compared current))
  · rw [accepts_oneOf some (isCurrent_flatMap current), List.mem_flatMap]
  · refine exists_congr fun criterion => and_congr_right fun member => ?_
    simp [accepts_iff (normal criterion member), isInclusive, equal criterion member]

theorem agrees_ofTypeNeAnd_iff {folded : TypeCriterion}
    (folds : ofTypeNeAnd ⟨.and, elements criteria⟩ = some folded) (patterns : Patterns)
    (records : List Record) :
    (∀ record, folded.Accepts patterns records record ↔
        ∀ criterion ∈ criteria, criterion.Accepts patterns records record) ↔
      ComparesAny criteria := by
  obtain ⟨differ, rfl, some⟩ := ofTypeNeAnd_elements folds
  refine Iff.trans (forall_congr' fun record => ?_)
    (Record.forall_vitaltype_iff (named_of_compared current))
  rw [accepts_noneOf some (isCurrent_flatMap current), List.mem_flatMap,
    accepts_exclusive normal, not_iff_not]
  intro criterion member
  simp [isInclusive, differ criterion member (normal criterion member).affirmed]

theorem agrees_ofAnd_iff {fold : Fold}
    (made : ofAnd ⟨.and, elements criteria⟩ = .ok (some fold)) (patterns : Patterns)
    (records : List Record) :
    (∀ record, fold.condition.holds patterns records record = true ↔
        ∀ criterion ∈ criteria, criterion.Accepts patterns records record) ↔
      if fold.admits then ComparesAll criteria else ComparesAny criteria := by
  obtain ⟨kinds, holds⟩ := holds_ofAnd_elements made
  cases admits : fold.admits with
  | true =>
    rw [if_pos rfl]
    refine Iff.trans (forall_congr' fun record => iff_congr ?_ ?_)
      (Record.forall_vitaltype_iff fun type all criterion member =>
        mem_types_of_mem_compared (current criterion member) (all criterion member))
    · simp [holds, admits]
    · refine forall_congr' fun criterion => forall_congr' fun member => ?_
      simp [accepts_iff (normal criterion member), kinds criterion member, admits]
  | false =>
    rw [if_neg (by simp)]
    refine Iff.trans (forall_congr' fun record => ?_)
      (Record.forall_vitaltype_iff (named_of_compared current))
    have excludes : fold.condition.holds patterns records record = true ↔
        ¬ ∃ criterion ∈ criteria, record.vitaltype ∈ criterion.types := by simp [holds, admits]
    rw [excludes, accepts_exclusive normal fun criterion member =>
      (kinds criterion member).trans admits, not_iff_not]

end Agreement

/-- A type fold means the same as its criteria, on every record, exactly if the types that no
criterion compares make no difference: for a fold of EQ criteria in OR, and of NE criteria in AND,
each type named is compared by some criterion; for a fold of AND that admits types, each type named
by all is compared by all. In particular this is so where EQ and NE name one type each. -/
theorem type_folds_agree_iff {given criteria : List TypeCriterion}
    (accepted : given.mapM TypeCriterion.resolve = .ok criteria)
    (current : ∀ criterion ∈ criteria, ∀ type ∈ criterion.types, versionless type = type)
    (patterns : Patterns) (records : List Record) :
    (∀ folded, ofTypeOr ⟨.or, elements criteria⟩ = some folded →
      ((∀ record, folded.Accepts patterns records record ↔
          ∃ criterion ∈ criteria, criterion.Accepts patterns records record) ↔
        ComparesAny criteria)) ∧
    (∀ folded, ofTypeNeAnd ⟨.and, elements criteria⟩ = some folded →
      ((∀ record, folded.Accepts patterns records record ↔
          ∀ criterion ∈ criteria, criterion.Accepts patterns records record) ↔
        ComparesAny criteria)) ∧
    (∀ fold, ofAnd ⟨.and, elements criteria⟩ = .ok (some fold) →
      ((∀ record, fold.condition.holds patterns records record = true ↔
          ∀ criterion ∈ criteria, criterion.Accepts patterns records record) ↔
        if fold.admits then ComparesAll criteria else ComparesAny criteria)) ∧
    ((∀ criterion ∈ criteria, criterion.comparator = .eq ∨ criterion.comparator = .ne →
        ∃ type, criterion.types = [type]) →
      ComparesAny criteria ∧ ComparesAll criteria) := by
  have normal (criterion) (member : criterion ∈ criteria) : criterion.IsNormal := by
    obtain ⟨before, -, resolved⟩ := exists_of_mem_mapM accepted member
    exact (affirmed_of_resolve resolved).2
  exact ⟨fun _ folds => agrees_ofTypeOr_iff normal current folds patterns records,
    fun _ folds => agrees_ofTypeNeAnd_iff normal current folds patterns records,
    fun _ made => agrees_ofAnd_iff normal current made patterns records,
    compares_of_single normal current⟩

/-- Two classes, asked for one by one. -/
theorem type_folds_agree_iff_two :
    let given : List TypeCriterion :=
      [⟨["urn:A"], .eq, false, false⟩, ⟨["urn:B"], .ne, false, true⟩]
    let criteria : List TypeCriterion :=
      [⟨["urn:A"], .eq, false, false⟩, ⟨["urn:B"], .eq, false, false⟩]
    given.mapM TypeCriterion.resolve = .ok criteria ∧
    ofTypeOr ⟨.or, elements criteria⟩ = some (oneOf ["urn:A", "urn:B"]) ∧
    ∀ patterns records record, (oneOf ["urn:A", "urn:B"]).Accepts patterns records record ↔
      ∃ criterion ∈ criteria, criterion.Accepts patterns records record := by
  intro given criteria
  have accepted : given.mapM TypeCriterion.resolve = .ok criteria := rfl
  refine ⟨accepted, rfl, fun patterns records => ?_⟩
  have agree := type_folds_agree_iff accepted (by decide) patterns records
  refine (agree.1 _ rfl).2 (agree.2.2.2 fun criterion member _ => ?_).1
  simp only [criteria, List.mem_cons, List.not_mem_nil, or_false] at member
  rcases member with rfl | rfl <;> exact ⟨_, rfl⟩

/-- A second type counts in the folds of a criterion that compares by EQ, and not in the criterion
itself. -/
theorem second_type_is_folded :
    let criteria : List TypeCriterion := [⟨["urn:A", "urn:B"], .eq, false, false⟩]
    criteria.mapM TypeCriterion.resolve = .ok criteria ∧
    ofTypeOr ⟨.or, elements criteria⟩ = some (oneOf ["urn:A", "urn:B"]) ∧
    (∃ fold, ofAnd ⟨.and, elements criteria⟩ = .ok (some fold) ∧
      ∀ patterns records, fold.condition.holds patterns records (.ofClass "urn:B") = true) ∧
    ∀ patterns records, (oneOf ["urn:A", "urn:B"]).Accepts patterns records (.ofClass "urn:B") ∧
      ∀ criterion ∈ criteria, ¬ criterion.Accepts patterns records (.ofClass "urn:B") := by
  intro criteria
  have made : ofAnd ⟨.and, elements criteria⟩ = .ok (some _) := rfl
  refine ⟨rfl, rfl, ⟨_, made, fun patterns records => ?_⟩, fun patterns records => ⟨?_, ?_⟩⟩
  · exact ((holds_ofAnd_elements made).2 patterns records _).2 (by decide)
  · exact (accepts_oneOf (by simp) (by decide)).2 (by decide)
  · rw [List.forall_mem_singleton, accepts_iff ⟨rfl, rfl, by simp⟩]
    decide

end Fold

end GraphSegments
