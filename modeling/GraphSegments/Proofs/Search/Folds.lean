import GraphSegments.Proofs.Results
import GraphSegments.Proofs.Search.Columns
import GraphSegments.Proofs.Search.Reading

/-!
What a fold says of a single row. Merging criteria one after the other collects exactly what each of
them says of the columns that every row of an object repeats; only containers of nothing but
criteria are folded.
-/

namespace GraphSegments
open Results

namespace Criterion

/-- What a single row tells of a criterion, for those that can be merged into a fold. -/
def echo? : Criterion → Option Condition
  | type criterion =>
    if criterion.isInclusive then some (.columnIn .vitaltype criterion.types)
    else some (.noneOf .vitaltype (criterion.types.map .ofText))
  | property criterion =>
    if criterion.property = Vocabulary.hasChannel then
      if criterion.comparator.isMembership then
        some (Fold.channelCondition ⟨criterion.comparator, criterion.values.filterMap (·.text?)⟩)
      else none
    else if criterion.property = Vocabulary.hasTimestamp then do
      let instant ← criterion.values.head?.bind Fold.Progress.instant?
      let comparison ← criterion.comparator.bound?
      return .compare (.plain .tstamp) comparison (.i64 (some instant.toInt))
    else none

/-- Whether a record satisfies what a row tells of a criterion. -/
def Echoes (patterns : Patterns) (records : List Record) (record : Record)
    (criterion : Criterion) : Prop :=
  ∃ condition, criterion.echo? = some condition ∧ condition.holds patterns records record = true

theorem echoes_type {patterns : Patterns} {records : List Record} {record : Record}
    {criterion : TypeCriterion} :
    (type criterion).Echoes patterns records record ↔
      (criterion.isInclusive = true ↔ record.vitaltype ∈ criterion.types) := by
  have cell := record.cell_vitaltype
  cases inclusive : criterion.isInclusive with
  | true => simp [Echoes, echo?, inclusive, Condition.holds_columnIn .vitaltype rfl cell]
  | false =>
    simp [Echoes, echo?, inclusive, Condition.holds_columnNotIn .vitaltype rfl cell]

theorem echo?_property {criterion : PropertyCriterion} {echo : Condition}
    (told : (property criterion).echo? = some echo) :
    (criterion.property = Vocabulary.hasChannel ∧ criterion.comparator.isMembership = true ∧
      echo = Fold.channelCondition
        ⟨criterion.comparator, criterion.values.filterMap (·.text?)⟩) ∨
    (criterion.property = Vocabulary.hasTimestamp ∧ ∃ instant comparison,
      criterion.values.head?.bind Fold.Progress.instant? = some instant ∧
      criterion.comparator.bound? = some comparison ∧
      echo = .compare (.plain .tstamp) comparison (.i64 (some instant.toInt))) := by
  unfold echo? at told
  dsimp only at told
  split at told
  next same =>
    split at told
    next membership => exact .inl ⟨same, membership, (Option.some.inj told).symm⟩
    next => exact absurd told (by simp)
  next =>
    split at told
    next same =>
      obtain ⟨instant, operand, told⟩ := Option.bind_eq_some_iff.1 told
      obtain ⟨comparison, bound, told⟩ := Option.bind_eq_some_iff.1 told
      exact .inr ⟨same, instant, comparison, operand, bound, (Option.some.inj told).symm⟩
    next => exact absurd told (by simp)

/-- Criteria that a fold can cover do not exclude objects. -/
theorem positive_of_echo {criterion : Criterion}
    (echoed : criterion.echo?.isSome = true) : criterion.isSetNegation = false := by
  cases criterion with
  | type criterion => rfl
  | property criterion =>
    obtain ⟨echo, told⟩ := Option.isSome_iff_exists.1 echoed
    rcases echo?_property told with ⟨-, membership, -⟩ | ⟨-, _, _, -, bound, -⟩
    · cases comparator : criterion.comparator <;>
        simp_all [isSetNegation, Comparator.isSetNegation, Comparator.isMembership]
    · cases comparator : criterion.comparator <;>
        simp_all [isSetNegation, Comparator.isSetNegation, Comparator.bound?]

end Criterion

namespace Fold

theorem mem_ascending {text : String} {texts : List String} :
    text ∈ ascending texts ↔ text ∈ texts := by
  simp [ascending]

/-- The types of a fold say whether the class of a row is among them. -/
theorem holds_typeConditions (fold : Fold) (patterns : Patterns) (records : List Record)
    (record : Record) :
    (∀ condition ∈ fold.typeConditions, condition.holds patterns records record = true) ↔
      fold.types = [] ∨ (fold.admits = true ↔ record.vitaltype ∈ fold.types) := by
  have cell := record.cell_vitaltype
  unfold typeConditions
  split
  next none => simp [none]
  next type one admits =>
    simp [one, admits, Condition.holds_columnIs .vitaltype rfl cell]
  next type one admits =>
    simp [one, admits, Condition.holds_columnIsNot .vitaltype rfl cell]
  next admits some several =>
    have some : fold.types ≠ [] := some
    simp [some, admits, Condition.holds_columnIn .vitaltype rfl cell]
  next admits some several =>
    have some : fold.types ≠ [] := some
    simp [some, admits, Condition.holds_columnNotIn .vitaltype rfl cell]

theorem holds_condition {fold : Fold} (satisfiable : fold.unsatisfiable = false)
    (patterns : Patterns) (records : List Record) (record : Record) :
    fold.condition.holds patterns records record = true ↔
      (∀ condition ∈ fold.typeConditions, condition.holds patterns records record = true) ∧
      (∀ filter ∈ fold.channel,
        (channelCondition filter).holds patterns records record = true) ∧
      (∀ bound ∈ fold.min, (boundCondition .ge .gt bound).holds patterns records record = true) ∧
      ∀ bound ∈ fold.max, (boundCondition .le .lt bound).holds patterns records record = true := by
  rw [condition, if_neg (by simp [satisfiable]), Condition.holds_all]
  simp only [List.mem_append, or_imp, forall_and, and_assoc, Option.mem_toList,
    Option.mem_def, Option.map_eq_some_iff, forall_exists_index, and_imp, forall_apply_eq_imp_iff₂]

/-- Nothing satisfies a contradictory fold. -/
theorem satisfiable_of_holds {fold : Fold} {patterns : Patterns} {records : List Record}
    {record : Record} (holds : fold.condition.holds patterns records record = true) :
    fold.unsatisfiable = false := by
  cases unsatisfiable : fold.unsatisfiable with
  | false => rfl
  | true =>
    rw [condition, if_pos unsatisfiable, Condition.holds_all] at holds
    exact absurd (holds .never List.mem_cons_self) (by simp [Condition.holds])

namespace Progress

/-- What has been merged so far holds of a record. -/
structure Admits (progress : Progress) (patterns : Patterns) (records : List Record)
    (record : Record) : Prop where
  admitted : ∀ types ∈ progress.admitted, record.vitaltype ∈ types
  spared : record.vitaltype ∉ progress.excluded
  channel : ∀ filter ∈ progress.channel,
    (channelCondition filter).holds patterns records record = true
  min : ∀ bound ∈ progress.min,
    (boundCondition .ge .gt bound).holds patterns records record = true
  max : ∀ bound ∈ progress.max,
    (boundCondition .le .lt bound).holds patterns records record = true

/-- Types are either admitted or excluded. -/
def Coherent (progress : Progress) : Prop :=
  match progress.inclusive with
  | none => progress.admitted = none ∧ progress.excluded = []
  | some true => progress.admitted.isSome = true ∧ progress.excluded = []
  | some false => progress.admitted = none

variable {patterns : Patterns} {records : List Record} {record : Record}

theorem coherent_start : start.Coherent := ⟨rfl, rfl⟩

/-- What is not admitted by name is only excluded. -/
theorem Coherent.admitted_eq_none {progress : Progress} (coherent : progress.Coherent)
    (exclusive : progress.inclusive.getD false = false) : progress.admitted = none := by
  unfold Coherent at coherent
  split at coherent <;> simp_all

theorem Coherent.exists_admitted {progress : Progress} (coherent : progress.Coherent)
    (inclusive : progress.inclusive.getD false = true) :
    ∃ types, progress.admitted = some types ∧ progress.excluded = [] := by
  unfold Coherent at coherent
  split at coherent <;> simp_all [Option.isSome_iff_exists]

theorem admits_start : start.Admits patterns records record :=
  ⟨by simp [start], by simp [start], by simp [start], by simp [start], by simp [start]⟩

/-- What merging a criterion does: either it is covered and what it says is added, or nothing
changes but the warnings. -/
structure Merges (progress : Progress) (place : Nat) (criterion : Criterion) (next : Progress) :
    Prop where
  coherent : progress.Coherent → next.Coherent
  admits : (next.covered = progress.covered ∧ ∀ patterns records record,
      next.Admits patterns records record ↔ progress.Admits patterns records record) ∨
    (next.covered = progress.covered ++ [place] ∧ ∃ condition, criterion.echo? = some condition ∧
      ∀ patterns records record, next.Admits patterns records record ↔
        progress.Admits patterns records record ∧
          condition.holds patterns records record = true)

theorem merges_warn (progress : Progress) (place : Nat) (criterion : Criterion)
    (warning : FoldWarning) : progress.Merges place criterion (progress.warn warning) where
  coherent := id
  admits := by
    refine .inl ⟨rfl, fun patterns records record => ?_⟩
    constructor
    · intro held
      exact ⟨held.admitted, held.spared, held.channel, held.min, held.max⟩
    · intro held
      exact ⟨held.admitted, held.spared, held.channel, held.min, held.max⟩

/-- Adding types to those that are admitted or excluded. -/
theorem merges_types {progress next : Progress} {place : Nat} {criterion : Criterion}
    {condition : Condition} (echoed : criterion.echo? = some condition)
    (covered : next.covered = progress.covered ++ [place])
    (coherent : progress.Coherent → next.Coherent)
    (others : next.channel = progress.channel ∧ next.min = progress.min ∧ next.max = progress.max)
    (types : ∀ patterns records record,
      (∀ types ∈ next.admitted, record.vitaltype ∈ types) ∧ record.vitaltype ∉ next.excluded ↔
      ((∀ types ∈ progress.admitted, record.vitaltype ∈ types) ∧
        record.vitaltype ∉ progress.excluded) ∧
      condition.holds patterns records record = true) :
    progress.Merges place criterion next where
  coherent := coherent
  admits := by
    refine .inr ⟨covered, condition, echoed, fun patterns records record => ?_⟩
    obtain ⟨channel, min, max⟩ := others
    constructor
    · intro admits
      obtain ⟨admitted, spared, filter, least, most⟩ := admits
      obtain ⟨⟨before, outside⟩, holds⟩ := (types patterns records record).1 ⟨admitted, spared⟩
      exact ⟨⟨before, outside, channel ▸ filter, min ▸ least, max ▸ most⟩, holds⟩
    · intro admits
      obtain ⟨⟨before, outside, filter, least, most⟩, holds⟩ := admits
      obtain ⟨admitted, spared⟩ := (types patterns records record).2 ⟨⟨before, outside⟩, holds⟩
      exact ⟨admitted, spared, channel ▸ filter, min ▸ least, max ▸ most⟩

theorem merges_mergeType {progress next : Progress} {place : Nat} {criterion : TypeCriterion}
    (merged : progress.mergeType place criterion = .ok next) :
    progress.Merges place (.type criterion) next := by
  unfold mergeType at merged
  dsimp only at merged
  by_cases mixed : progress.inclusive.any (· != criterion.isInclusive) = true
  · rw [if_pos mixed] at merged
    exact absurd merged (by simp)
  rw [if_neg mixed] at merged
  have same : progress.inclusive = none ∨ progress.inclusive = some criterion.isInclusive := by
    cases inclusive : progress.inclusive with
    | none => exact .inl rfl
    | some inclusive => simpa [inclusive] using mixed
  cases kind : criterion.isInclusive with
  | true =>
    have echoed : (Criterion.type criterion).echo? =
        some (.columnIn .vitaltype criterion.types) := if_pos kind
    simp only [kind, ite_true] at merged
    obtain rfl := Except.ok.inj merged
    refine merges_types echoed rfl ?_ ⟨rfl, rfl, rfl⟩ ?_
    · intro coherent
      rcases same with fresh | fresh <;> simp_all [Coherent]
    · intro patterns records record
      rw [Condition.holds_columnIn .vitaltype rfl record.cell_vitaltype]
      cases before : progress.admitted with
      | none => simp [and_comm]
      | some types => simp [and_right_comm]
  | false =>
    have echoed : (Criterion.type criterion).echo? =
        some (.noneOf .vitaltype (criterion.types.map .ofText)) := if_neg (by simp [kind])
    simp only [kind, Bool.false_eq_true, ite_false] at merged
    obtain rfl := Except.ok.inj merged
    refine merges_types echoed rfl ?_ ⟨rfl, rfl, rfl⟩ ?_
    · intro coherent
      rcases same with fresh | fresh <;> simp_all [Coherent]
    · intro patterns records record
      rw [Condition.holds_columnNotIn .vitaltype rfl record.cell_vitaltype]
      simp [and_assoc]

theorem merges_mergeChannel (progress : Progress) (place : Nat) (criterion : PropertyCriterion)
    (same : criterion.property = Vocabulary.hasChannel) :
    progress.Merges place (.property criterion) (progress.mergeChannel place criterion) := by
  unfold mergeChannel
  split
  next => exact merges_warn _ _ _ _
  next fresh =>
    split
    next => exact merges_warn _ _ _ _
    next membership =>
      have membership : criterion.comparator.isMembership = true := by simpa using membership
      have echoed : (Criterion.property criterion).echo? = some (channelCondition
          ⟨criterion.comparator, criterion.values.filterMap (·.text?)⟩) := by
        simp [Criterion.echo?, same, membership]
      refine ⟨id, .inr ⟨rfl, _, echoed, fun patterns records record => ?_⟩⟩
      have none : progress.channel = none := by simpa using fresh
      constructor
      · intro admits
        obtain ⟨admitted, spared, channel, min, max⟩ := admits
        exact ⟨⟨admitted, spared, by simp [none], min, max⟩, channel _ rfl⟩
      · intro admits
        obtain ⟨⟨admitted, spared, channel, min, max⟩, holds⟩ := admits
        exact ⟨admitted, spared, by simpa using holds, min, max⟩

/-- Adding a bound where there was none. -/
theorem merges_bound {progress next : Progress} {place : Nat} {criterion : Criterion}
    {condition : Condition} (echoed : criterion.echo? = some condition)
    (covered : next.covered = progress.covered ++ [place])
    (types : next.inclusive = progress.inclusive ∧ next.admitted = progress.admitted ∧
      next.excluded = progress.excluded ∧ next.channel = progress.channel)
    (bounds : ∀ patterns records record,
      (∀ bound ∈ next.min, (boundCondition .ge .gt bound).holds patterns records record = true) ∧
        (∀ bound ∈ next.max, (boundCondition .le .lt bound).holds patterns records record = true) ↔
      ((∀ bound ∈ progress.min,
          (boundCondition .ge .gt bound).holds patterns records record = true) ∧
        ∀ bound ∈ progress.max,
          (boundCondition .le .lt bound).holds patterns records record = true) ∧
      condition.holds patterns records record = true) :
    progress.Merges place criterion next where
  coherent := by
    obtain ⟨inclusive, admitted, excluded, -⟩ := types
    simp [Coherent, inclusive, admitted, excluded]
  admits := by
    refine .inr ⟨covered, condition, echoed, fun patterns records record => ?_⟩
    obtain ⟨-, admitted, excluded, channel⟩ := types
    constructor
    · intro admits
      obtain ⟨admits, spared, filter, min, max⟩ := admits
      obtain ⟨⟨oldMin, oldMax⟩, holds⟩ := (bounds patterns records record).1 ⟨min, max⟩
      exact ⟨⟨admitted ▸ admits, excluded ▸ spared, channel ▸ filter, oldMin, oldMax⟩, holds⟩
    · intro admits
      obtain ⟨⟨admits, spared, filter, oldMin, oldMax⟩, holds⟩ := admits
      obtain ⟨min, max⟩ := (bounds patterns records record).2 ⟨⟨oldMin, oldMax⟩, holds⟩
      exact ⟨admitted ▸ admits, excluded ▸ spared, channel ▸ filter, min, max⟩

theorem merges_mergeTimestamp (progress : Progress) (place : Nat) (criterion : PropertyCriterion)
    (same : criterion.property = Vocabulary.hasTimestamp) :
    progress.Merges place (.property criterion) (progress.mergeTimestamp place criterion) := by
  have other : Vocabulary.hasTimestamp ≠ Vocabulary.hasChannel := by decide
  unfold mergeTimestamp
  cases operand : criterion.values.head?.bind instant? with
  | none => exact merges_warn _ _ _ _
  | some instant =>
    have echoed : (Criterion.property criterion).echo? = criterion.comparator.bound?.map
        fun comparison => .compare (.plain .tstamp) comparison (.i64 (some instant.toInt)) := by
      cases bound : criterion.comparator.bound? <;>
        simp [Criterion.echo?, same, other, operand, bound]
    dsimp only
    cases comparator : criterion.comparator with
    | ge | gt =>
      rw [comparator] at echoed
      dsimp only
      split
      next => exact merges_warn _ _ _ _
      next fresh =>
        have none : progress.min = none := by simpa using fresh
        refine merges_bound echoed rfl ⟨rfl, rfl, rfl, rfl⟩ fun patterns records record => ?_
        simp [none, boundCondition, and_comm]
    | le | lt =>
      rw [comparator] at echoed
      dsimp only
      split
      next => exact merges_warn _ _ _ _
      next fresh =>
        have none : progress.max = none := by simpa using fresh
        refine merges_bound echoed rfl ⟨rfl, rfl, rfl, rfl⟩ fun patterns records record => ?_
        simp [none, boundCondition]
    | _ => exact merges_warn _ _ _ _

theorem merges_merge {progress next : Progress} {place : Nat} {criterion : Criterion}
    (merged : progress.merge place criterion = .ok next) :
    progress.Merges place criterion next := by
  cases criterion with
  | type criterion => exact merges_mergeType merged
  | property criterion =>
    obtain rfl := Except.ok.inj merged
    split
    next same => exact merges_mergeChannel progress place criterion same
    next =>
      split
      next same => exact merges_mergeTimestamp progress place criterion same
      next => exact ⟨id, .inl ⟨rfl, fun _ _ _ => Iff.rfl⟩⟩

/-- What merging a list of criteria comes to: what has been merged before, and what the covered ones
of them say. -/
structure MergesAll (progress : Progress) (place : Nat) (criteria : List Criterion)
    (final : Progress) : Prop where
  coherent : progress.Coherent → final.Coherent
  kept : ∀ earlier < place, earlier ∈ final.covered ↔ earlier ∈ progress.covered
  echoed : ∀ x ∈ criteria.zipIdx place, x.2 ∈ final.covered → x.1.echo?.isSome = true
  admits : ∀ patterns records record, final.Admits patterns records record ↔
    progress.Admits patterns records record ∧
      ∀ x ∈ criteria.zipIdx place, x.2 ∈ final.covered → x.1.Echoes patterns records record

theorem mergesAll_nil (progress : Progress) (place : Nat) :
    progress.MergesAll place [] progress where
  coherent := id
  kept _ _ := Iff.rfl
  echoed := by simp
  admits := by simp

theorem MergesAll.cons {progress next final : Progress} {place : Nat} {criterion : Criterion}
    {rest : List Criterion} (fresh : ∀ earlier ∈ progress.covered, earlier < place)
    (first : progress.Merges place criterion next) (later : next.MergesAll (place + 1) rest final) :
    progress.MergesAll place (criterion :: rest) final := by
  have unseen : place ∉ progress.covered := fun member => Nat.lt_irrefl _ (fresh place member)
  have here : place ∈ final.covered ↔ place ∈ next.covered := later.kept place (by omega)
  rcases first.admits with ⟨same, admits⟩ | ⟨added, condition, echoed, admits⟩
  · have uncovered : place ∉ final.covered := by rwa [here, same]
    refine ⟨later.coherent ∘ first.coherent, fun earlier before => ?_, ?_, ?_⟩
    · rw [later.kept earlier (by omega), same]
    · simpa [List.zipIdx_cons, uncovered] using later.echoed
    · intro patterns records record
      rw [later.admits, admits]
      simp [List.zipIdx_cons, uncovered]
  · have covered : place ∈ final.covered := by simp [here, added]
    refine ⟨later.coherent ∘ first.coherent, fun earlier before => ?_, ?_, ?_⟩
    · rw [later.kept earlier (by omega), added]
      simp only [List.mem_append, List.mem_singleton]
      exact or_iff_left (by omega)
    · simpa [List.zipIdx_cons, covered, echoed] using later.echoed
    · intro patterns records record
      rw [later.admits, admits]
      simp [List.zipIdx_cons, covered, Criterion.Echoes, echoed, and_assoc]

/-- Only criteria are merged, never containers. -/
theorem mergesAll_mergeAll {elements : List Element} {progress final : Progress} {place : Nat}
    (fresh : ∀ earlier ∈ progress.covered, earlier < place)
    (merged : progress.mergeAll place elements = .ok (some final)) :
    ∃ criteria, elements = criteria.map .leaf ∧ progress.MergesAll place criteria final := by
  induction elements generalizing progress place with
  | nil =>
    obtain rfl := Option.some.inj (Except.ok.inj merged)
    exact ⟨[], rfl, mergesAll_nil _ _⟩
  | cons element rest ih =>
    cases element with
    | nested connective elements => exact absurd (Except.ok.inj merged) (by simp)
    | leaf criterion =>
      obtain ⟨next, one, merged⟩ := bind_eq_ok.1 merged
      have first := merges_merge one
      have later : ∀ earlier ∈ next.covered, earlier < place + 1 := by
        intro earlier member
        rcases first.admits with ⟨same, -⟩ | ⟨added, -⟩
        · exact Nat.lt_succ_of_lt (fresh earlier (same ▸ member))
        · rcases List.mem_append.1 (added ▸ member) with old | new
          · exact Nat.lt_succ_of_lt (fresh earlier old)
          · exact Nat.lt_succ_of_le (Nat.le_of_eq (List.mem_singleton.1 new))
      obtain ⟨criteria, rfl, others⟩ := ih later merged
      exact ⟨criterion :: criteria, rfl, MergesAll.cons fresh first others⟩

theorem covered_finish? {progress : Progress} {fold : Fold}
    (finished : progress.finish? = some fold) : fold.covered = progress.covered := by
  unfold finish? at finished
  split at finished
  next => exact absurd finished (by simp)
  next => exact Option.some.inj finished ▸ rfl

/-- A fold holds of a record exactly if all that has been merged does. -/
theorem holds_finish? {progress : Progress} {fold : Fold} (coherent : progress.Coherent)
    (finished : progress.finish? = some fold) (patterns : Patterns) (records : List Record)
    (record : Record) :
    fold.condition.holds patterns records record = true ↔
      progress.Admits patterns records record := by
  unfold finish? at finished
  split at finished
  next => exact absurd finished (by simp)
  next =>
    obtain rfl := Option.some.inj finished
    cases inclusive : progress.inclusive.getD false with
    | false =>
      have none := coherent.admitted_eq_none inclusive
      rw [holds_condition (by simp), holds_typeConditions]
      simp only [Bool.false_eq_true, ite_false]
      constructor
      · intro admits
        obtain ⟨types, channel, min, max⟩ := admits
        refine ⟨by simp [none], fun member => ?_, channel, min, max⟩
        have listed := mem_ascending.2 member
        rcases types with empty | spared
        · simp [empty] at listed
        · exact absurd (spared.2 listed) (by simp)
      · intro admits
        obtain ⟨-, spared, channel, min, max⟩ := admits
        exact ⟨.inr (by simpa [mem_ascending] using spared), channel, min, max⟩
    | true =>
      obtain ⟨types, admitted, none⟩ := coherent.exists_admitted inclusive
      simp only [admitted, ite_true, Option.getD_some, Bool.true_and]
      cases empty : (ascending types).isEmpty with
      | true =>
        constructor
        · intro holds
          exact absurd (satisfiable_of_holds holds) (by simp)
        · intro admits
          obtain ⟨named, -⟩ := admits
          have listed := mem_ascending.2 (named types admitted)
          rw [List.isEmpty_iff.1 empty] at listed
          exact absurd listed List.not_mem_nil
      | false =>
        rw [holds_condition rfl, holds_typeConditions]
        dsimp only
        constructor
        · intro admits
          obtain ⟨named, channel, min, max⟩ := admits
          refine ⟨fun others same => ?_, by simp [none], channel, min, max⟩
          obtain rfl := Option.some.inj (admitted.symm.trans same)
          rcases named with nothing | listed
          · simp [nothing] at empty
          · exact mem_ascending.1 (listed.1 rfl)
        · intro admits
          obtain ⟨named, -, channel, min, max⟩ := admits
          have listed := mem_ascending.2 (named types admitted)
          exact ⟨.inr (by simp [listed]), channel, min, max⟩

end Progress

/-- What a fold stands for: what each of the criteria that it covers tells of a single row. -/
structure Merges (fold : Fold) (criteria : List Criterion) : Prop where
  echoed : ∀ x ∈ criteria.zipIdx, fold.covers x.2 = true → x.1.echo?.isSome = true
  holds : ∀ patterns records record,
    fold.condition.holds patterns records record = true ↔
      ∀ x ∈ criteria.zipIdx, fold.covers x.2 = true → x.1.Echoes patterns records record

/-- Only a container of nothing but criteria has a fold, which stands for those it covers. -/
theorem merges_of_ofAnd {elements : List Element} {fold : Fold}
    (made : ofAnd ⟨.and, elements⟩ = .ok (some fold)) :
    ∃ criteria, elements = criteria.map .leaf ∧ fold.Merges criteria := by
  obtain ⟨progress, merged, finished⟩ := bind_eq_ok.1 made
  cases progress with
  | none => exact absurd (Except.ok.inj finished) (by simp)
  | some final =>
    have finished : final.finish? = some fold := Except.ok.inj finished
    obtain ⟨criteria, rfl, all⟩ := Progress.mergesAll_mergeAll (by simp [Progress.start]) merged
    have covers (place : Nat) : fold.covers place = true ↔ place ∈ final.covered := by
      rw [Fold.covers, Progress.covered_finish? finished, List.contains_iff_mem]
    refine ⟨criteria, rfl, ?_, fun patterns records record => ?_⟩
    · simpa only [covers] using all.echoed
    · rw [Progress.holds_finish? (all.coherent Progress.coherent_start) finished, all.admits]
      simp only [covers, Progress.admits_start, true_and]

/-- Only an AND container is folded, where folding is wanted. -/
theorem merges_of_used {folding : Bool} {connective : Connective} {elements : List Element}
    {fold : Fold} (used : Fold.used folding ⟨connective, elements⟩ = some fold) :
    connective = .and ∧ folding = true ∧
      ∃ criteria, elements = criteria.map .leaf ∧ fold.Merges criteria := by
  cases folding with
  | false => exact absurd used (by simp [Fold.used, Fold.wanted])
  | true =>
    cases connective with
    | or => exact absurd used (by simp)
    | and =>
      refine ⟨rfl, rfl, ?_⟩
      unfold Fold.used at used
      split at used
      next found made =>
        subst used
        exact merges_of_ofAnd made
      next => exact absurd used (by simp)

/-! Containers that are read as one type criterion. -/

theorem collectTypes_eq_some {accepts : TypeCriterion → Bool} {elements : List Element}
    {types : List String} (collected : collectTypes accepts elements = some types) :
    ∃ criteria : List TypeCriterion,
      elements = criteria.map (fun criterion => .leaf (.type criterion)) ∧
      (∀ criterion ∈ criteria, accepts criterion = true) ∧ types = criteria.flatMap (·.types) := by
  induction elements generalizing types with
  | nil => exact ⟨[], rfl, by simp, (Option.some.inj collected).symm⟩
  | cons element rest ih =>
    match element with
    | .nested connective elements => exact absurd collected (by simp [collectTypes])
    | .leaf (.property criterion) => exact absurd collected (by simp [collectTypes])
    | .leaf (.type criterion) =>
      rw [collectTypes] at collected
      split at collected
      next accepted =>
        obtain ⟨others, gathered, rfl⟩ := Option.map_eq_some_iff.1 collected
        obtain ⟨criteria, rfl, all, rfl⟩ := ih gathered
        refine ⟨criterion :: criteria, rfl, ?_, rfl⟩
        simpa [accepted] using all
      next => exact absurd collected (by simp)

/-- A container is read as one type criterion if it admits types one by one, or excludes them. -/
theorem typesWanted_eq_some {folding : Bool} {connective : Connective} {elements : List Element}
    {criterion : TypeCriterion}
    (read : typesWanted folding ⟨connective, elements⟩ = some criterion) :
    folding = true ∧ criterion.types ≠ [] ∧ ∃ criteria : List TypeCriterion,
      elements = criteria.map (fun part => .leaf (.type part)) ∧
      ((connective = .or ∧ (∀ part ∈ criteria, part.comparator = .eq) ∧
          criterion = .oneOf (criteria.flatMap (·.types))) ∨
        (connective = .and ∧ (∀ part ∈ criteria, part.negated = false → part.comparator = .ne) ∧
          criterion = .noneOf (criteria.flatMap (·.types)))) := by
  unfold typesWanted at read
  split at read
  next =>
    refine ⟨‹_›, ?_⟩
    cases connective with
    | or =>
      simp only [ofTypes, ofTypeOr, ofTypeNeAnd, Option.or_none] at read
      split at read
      next types first second rest collected =>
        obtain ⟨criteria, rfl, all, named⟩ := collectTypes_eq_some collected
        obtain rfl := Option.some.inj read
        refine ⟨List.cons_ne_nil _ _, criteria, rfl, .inl ⟨rfl, fun part member => ?_, ?_⟩⟩
        · have accepted := all part member
          simp only [Bool.and_eq_true, beq_iff_eq] at accepted
          exact accepted.1
        · rw [← named]
      next => exact absurd read (by simp)
    | and =>
      simp only [ofTypes, ofTypeOr, ofTypeNeAnd, Option.none_or] at read
      split at read
      next types first rest collected =>
        obtain ⟨criteria, rfl, all, named⟩ := collectTypes_eq_some collected
        obtain rfl := Option.some.inj read
        refine ⟨List.cons_ne_nil _ _, criteria, rfl, .inr ⟨rfl, fun part member affirmed => ?_, ?_⟩⟩
        · have accepted := all part member
          simpa [affirmed] using accepted
        · rw [← named]
      next => exact absurd read (by simp)
  next => exact absurd read (by simp)

end Fold

namespace Container

theorem mem_criteria {container : Container} {criterion : Criterion} :
    criterion ∈ container.criteria ↔ .leaf criterion ∈ container.elements := by
  rw [criteria, List.mem_filterMap]
  constructor
  · intro listed
    obtain ⟨element, member, read⟩ := listed
    cases element with
    | leaf other => exact Option.some.inj read ▸ member
    | nested connective inner => exact absurd read (by simp)
  · exact fun member => ⟨_, member, rfl⟩

/-- What is probed is affirmed, and of a kind that cannot match where there is no row for it. -/
theorem mem_positiveCriteria {seen : List String} {criteria : List Criterion}
    {criterion : Criterion} (member : criterion ∈ positiveCriteria seen criteria) :
    criterion ∈ criteria ∧ criterion.isNegated = false ∧ criterion.isSetNegation = false := by
  induction criteria generalizing seen with
  | nil => exact absurd member List.not_mem_nil
  | cons first rest ih =>
    have later {seen : List String} (member : criterion ∈ positiveCriteria seen rest) :
        criterion ∈ first :: rest ∧ criterion.isNegated = false ∧ criterion.isSetNegation = false :=
      ⟨List.mem_cons_of_mem _ (ih member).1, (ih member).2⟩
    unfold positiveCriteria at member
    split at member
    next => exact later member
    next affirmed =>
      split at member
      next =>
        rcases List.mem_cons.1 member with rfl | member
        · exact ⟨List.mem_cons_self, by simpa using affirmed, rfl⟩
        · exact later member
      next inner =>
        split at member
        next => exact later member
        next kept =>
          rcases List.mem_cons.1 member with rfl | member
          · refine ⟨List.mem_cons_self, by simpa using affirmed, ?_⟩
            have inclusive : inner.comparator.isExclusive = false := by
              simp only [Bool.or_eq_true, not_or, Bool.not_eq_true] at kept
              exact kept.1
            cases comparator : inner.comparator <;>
              simp_all [Criterion.isSetNegation, Comparator.isExclusive, Comparator.isSetNegation]
          · exact later member

theorem mem_probes {elements : List Element} {criterion : Criterion}
    (member : criterion ∈ Container.probes ⟨.and, elements⟩) :
    .leaf criterion ∈ elements ∧ criterion.isNegated = false ∧
      criterion.isSetNegation = false := by
  have positive : criterion ∈ positiveCriteria [] (Container.criteria ⟨.and, elements⟩) := by
    unfold probes at member
    dsimp only at member
    split at member
    next listed => exact listed ▸ member
    next => exact absurd member List.not_mem_nil
  obtain ⟨listed, inclusive⟩ := mem_positiveCriteria positive
  exact ⟨mem_criteria.1 listed, inclusive⟩

end Container

end GraphSegments
