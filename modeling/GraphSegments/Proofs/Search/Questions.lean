import GraphSegments.Proofs.Criteria.NormalForm
import GraphSegments.Proofs.Search.Dialogues
import GraphSegments.Proofs.Search.Reading

/-!
What the questions of a search come to: single criteria, folds and all objects are answered by sets
that hold what they mean, and a probe tells whether there is any row for a criterion.
-/

namespace GraphSegments
open Results Dialogue UriSet

/-- A database that holds one table and nothing else. -/
def Database.ofTable (table : String) (records : List Record) : Database :=
  { Database.empty with tables := [(table, records)] }

@[simp] theorem Database.recordsOf_ofTable (table : String) (records : List Record) :
    (ofTable table records).recordsOf table = .ok records := by
  simp [ofTable, recordsOf, records?, sameName]

/-- The objects that a condition selects, as a set. -/
def Condition.found (patterns : Patterns) (records : List Record) (condition : Condition) :
    UriSet :=
  UriSet.ofList ((Select.objects "" condition).uris patterns records)

theorem Reading.Describes.finds_found {reading : Reading} {scope : LeafScope} {patterns : Patterns}
    {records : List Record} (describes : reading.Describes scope patterns records)
    (condition : Condition) :
    Finds reading (condition.found patterns records) (condition.Selects patterns records) where
  ascending := ascending_ofList _
  mem_iff uri := by
    rw [Condition.found, mem_ofList, Select.mem_uris_objects, describes.known]
    constructor
    · intro selected
      obtain ⟨record, member, same, holds⟩ := selected
      exact ⟨⟨record, member, same⟩, record, member, same, holds⟩
    · exact And.right

namespace SegmentScope

variable {scope : SegmentScope} {database : Database} {records : List Record}
  {reading : Reading}

section Questions

variable (present : database.recordsOf scope.table = .ok records)
include present

theorem run_ask (label : String) (condition : Condition) :
    (ask label (.objects scope.table condition)).run database =
      .ok ((Select.objects "" condition).uris database.patterns records) := by
  have answered : database.recordsOf (Select.objects scope.table condition).table = .ok records :=
    present
  rw [ask, run_bind, run_askUris, answered]
  rfl

theorem run_probe (condition : Condition) :
    (ask "PROBE" (.oneRow scope.table condition)).run database =
      .ok ((Select.oneRow scope.table condition).uris database.patterns records) := by
  have answered : database.recordsOf (Select.oneRow scope.table condition).table = .ok records :=
    present
  rw [ask, run_bind, run_askUris, answered]
  rfl

theorem run_leaf (fold : Option Fold) (criterion : Criterion) :
    (scope.leaf fold criterion).run database =
      (criterion.leafCondition scope.toLeafScope fold).map
        (Condition.found database.patterns records) := by
  rw [leaf, run_bind, run_ofExcept]
  cases criterion.leafCondition scope.toLeafScope fold with
  | error error => rfl
  | ok condition => rw [ok_bind, run_bind, run_ask present]; rfl

theorem run_every :
    scope.every.run database =
      .ok (UriSet.ofList ((Select.everyObject scope.table).uris database.patterns records)) := by
  rw [every, run_bind, run_askEvery, present]
  rfl

theorem run_matchFold (fold : Fold) (matched : Option UriSet) :
    (scope.matchFold fold matched).run database =
      .ok (narrow matched (fold.condition.found database.patterns records)) := by
  rw [matchFold, run_bind, run_ask present, ok_bind]
  cases matched <;> rfl

variable (describes : reading.Describes scope.toLeafScope database.patterns records)
include describes

theorem finds_leaf {fold : Option Fold} {criterion : Criterion} {found : UriSet}
    (ran : (scope.leaf fold criterion).run database = .ok found) :
    Finds reading found (reading.leaf fold criterion) := by
  rw [run_leaf present, map_eq_ok] at ran
  obtain ⟨condition, compiled, rfl⟩ := ran
  exact (describes.finds_found condition).congr fun uri _ => (describes.leaf compiled uri).symm

theorem finds_every {found : UriSet} (ran : scope.every.run database = .ok found) :
    Finds reading found fun _ => True := by
  rw [run_every present] at ran
  obtain rfl := Except.ok.inj ran
  refine ⟨ascending_ofList _, fun uri => ?_⟩
  rw [mem_ofList, Select.mem_uris_everyObject, ← describes.known, and_true]

/-- Taking out what criteria exclude may stop early, but only when nothing is left. -/
theorem finds_exclude {excluding : List Criterion} {matched found : UriSet}
    {meaning : String → Prop} (start : Finds reading matched meaning)
    (ran : (scope.exclude matched excluding).run database = .ok found) :
    Finds reading found fun uri =>
      meaning uri ∧ ∀ criterion ∈ excluding, ¬ reading.leaf none criterion uri := by
  induction excluding generalizing matched meaning with
  | nil =>
    obtain rfl := Except.ok.inj ran
    exact start.congr fun uri _ => by simp
  | cons criterion rest ih =>
    rw [exclude] at ran
    split at ran
    next empty =>
      obtain rfl := Except.ok.inj ran
      apply start.congr
      intro uri known
      have unmatched := start.none_of_isEmpty empty uri known
      simp [unmatched]
    next =>
      rw [run_bind, bind_eq_ok] at ran
      obtain ⟨excluded, asked, ran⟩ := ran
      apply (ih (start.diff (finds_leaf present describes asked)) ran).congr
      intro uri _
      simp [and_assoc]

end Questions

end SegmentScope

/-! Probes. -/

mutual

/-- Whether the elements of every AND container in an element, but for those that are read as one
type criterion, have a property. -/
def Element.EachAnd (folding : Bool) (p : List Element → Prop) : Element → Prop
  | .leaf _ => True
  | .nested connective elements =>
    (connective = .and → Fold.typesWanted folding ⟨connective, elements⟩ = none → p elements) ∧
      Element.EachAndAll folding p elements

def Element.EachAndAll (folding : Bool) (p : List Element → Prop) : List Element → Prop
  | [] => True
  | element :: rest => element.EachAnd folding p ∧ Element.EachAndAll folding p rest

end

/-- Whether the elements of every AND container that is searched as such have a property. -/
def Container.EachAnd (folding : Bool) (p : List Element → Prop) (container : Container) : Prop :=
  (container.connective = .and → p container.elements) ∧
    Element.EachAndAll folding p container.elements

mutual

theorem Element.eachAnd_of_every {q : Criterion → Prop} {folding : Bool} (element : Element)
    (every : element.Every q) : element.EachAnd folding (Element.EveryAll q) := by
  match element with
  | .leaf criterion => exact trivial
  | .nested connective elements =>
    exact ⟨fun _ _ => every, Element.eachAndAll_of_everyAll elements every⟩

theorem Element.eachAndAll_of_everyAll {q : Criterion → Prop} {folding : Bool}
    (elements : List Element) (every : Element.EveryAll q elements) :
    Element.EachAndAll folding (Element.EveryAll q) elements := by
  match elements with
  | [] => exact trivial
  | element :: rest =>
    exact ⟨Element.eachAnd_of_every element every.1, Element.eachAndAll_of_everyAll rest every.2⟩

end

theorem Container.eachAnd_of_every {q : Criterion → Prop} {folding : Bool} {container : Container}
    (every : container.Every q) : container.EachAnd folding (Element.EveryAll q) :=
  ⟨fun _ => every, Element.eachAndAll_of_everyAll container.elements every⟩

/-- Whether the probe of a criterion, if it can be asked, finds a row. -/
def Criterion.IsFound (patterns : Patterns) (records : List Record) (criterion : Criterion) :
    Prop :=
  ∀ condition, criterion.probeCondition = .ok condition →
    ∃ uri, condition.Selects patterns records uri

namespace SegmentScope

/-- Whether a search can rely on its probes: where an object matches an AND container with a
property, all of its probes find rows. A search that does not probe relies on nothing. -/
def Trusts (scope : SegmentScope) (reading : Reading) (patterns : Patterns)
    (records : List Record) (p : List Element → Prop) : Prop :=
  scope.probing = true → ∀ elements, p elements → ∀ uri, reading.known uri →
    Container.Matches reading scope.folding ⟨.and, elements⟩ uri →
    ∀ criterion ∈ Container.probes ⟨.and, elements⟩, criterion.IsFound patterns records

variable {scope : SegmentScope} {database : Database} {records : List Record}
  {reading : Reading} {p : List Element → Prop}

theorem trusts_of_unprobed {patterns : Patterns} (unprobed : scope.probing = false) :
    scope.Trusts reading patterns records p := by
  intro probing
  exact absurd (unprobed.symm.trans probing) Bool.false_ne_true

variable (present : database.recordsOf scope.table = .ok records)
include present

/-- Probing ends with the first criterion for which there is no row. -/
theorem exists_of_run_probeEach {criteria : List Criterion}
    (ran : (scope.probeEach criteria).run database = .ok false) :
    ∃ criterion ∈ criteria, ¬ criterion.IsFound database.patterns records := by
  induction criteria with
  | nil => exact absurd (Except.ok.inj ran) (by simp)
  | cons criterion rest ih =>
    rw [probeEach, run_bind, run_ofExcept, bind_eq_ok] at ran
    obtain ⟨condition, compiled, ran⟩ := ran
    rw [run_bind, run_probe present, ok_bind] at ran
    split at ran
    next empty =>
      refine ⟨criterion, List.mem_cons_self, fun isFound => ?_⟩
      obtain ⟨uri, selects⟩ := isFound condition compiled
      exact Select.uris_oneRow_eq_nil.1 (List.isEmpty_iff.1 empty) uri selects
    next =>
      obtain ⟨other, member, missing⟩ := ih ran
      exact ⟨other, List.mem_cons_of_mem _ member, missing⟩

/-- Probing that ends early has found a criterion without rows. -/
theorem exists_of_run_probe {container : Container}
    (ran : (scope.probe container).run database = .ok false) :
    scope.probing = true ∧
      ∃ criterion ∈ container.probes, ¬ criterion.IsFound database.patterns records := by
  unfold probe at ran
  split at ran
  next probing => exact ⟨probing, exists_of_run_probeEach present ran⟩
  next => exact absurd (Except.ok.inj ran) (by simp)

/-- A container whose probing finds a criterion without rows has no match. -/
theorem Trusts.unmatched {elements : List Element}
    (trusts : scope.Trusts reading database.patterns records p) (whole : p elements)
    (ran : (scope.probe ⟨.and, elements⟩).run database = .ok false) {uri : String}
    (known : reading.known uri) :
    ¬ Container.Matches reading scope.folding ⟨.and, elements⟩ uri := by
  intro matching
  obtain ⟨probing, criterion, member, missing⟩ := exists_of_run_probe present ran
  exact missing (trusts probing elements whole uri known matching criterion member)

end SegmentScope

end GraphSegments
