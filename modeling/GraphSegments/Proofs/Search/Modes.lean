import GraphSegments.Proofs.Search.Composition
import GraphSegments.Proofs.Search.Folds
import GraphSegments.Proofs.Search.SetAlgebra

/-!
Both ways of searching agree. Wherever criteria can be composed as one statement the search by set
algebra succeeds too, and both find the objects that match.
-/

namespace GraphSegments
open Results Dialogue UriSet

/-! A search by set algebra asks nothing that has not been composed. -/

/-- A criterion that is a condition, with or without a fold. -/
def Criterion.Compiles (scope : LeafScope) (criterion : Criterion) : Prop :=
  ∃ demand, criterion.demand? scope = .ok demand

theorem Criterion.compiles_of_leafCondition {scope : LeafScope} {fold : Option Fold}
    {criterion : Criterion} {condition : Condition}
    (compiled : criterion.leafCondition scope fold = .ok condition) :
    criterion.Compiles scope := by
  obtain ⟨demand, demanded, -⟩ := bind_eq_ok.1 compiled
  exact ⟨demand, demanded⟩

theorem Criterion.compiles_of_clause {scope : LeafScope} {fold : Option Fold}
    {criterion : Criterion} {condition : Condition} {applied : Bool}
    (composed : criterion.clause scope fold = .ok (condition, applied)) :
    criterion.Compiles scope := by
  rcases clause_eq_ok composed with ⟨-, -, inner, compiled, -⟩ | ⟨-, -, inner, compiled, -⟩
  · exact compiles_of_leafCondition compiled
  · exact compiles_of_leafCondition compiled

section Success

variable {scope : SegmentScope} {database : Database} {records : List Record}
  (present : database.recordsOf scope.table = .ok records)

namespace SegmentScope

include present

theorem runs_leaf (fold : Option Fold) {criterion : Criterion}
    (compiles : criterion.Compiles scope.toLeafScope) :
    ∃ found, (scope.leaf fold criterion).run database = .ok found := by
  obtain ⟨demand, demanded⟩ := compiles
  rw [run_leaf present, Criterion.leafCondition, demanded]
  exact ⟨_, rfl⟩

theorem runs_exclude {excluding : List Criterion}
    (compile : ∀ criterion ∈ excluding, criterion.Compiles scope.toLeafScope)
    (matched : UriSet) : ∃ found, (scope.exclude matched excluding).run database = .ok found := by
  induction excluding generalizing matched with
  | nil => exact ⟨matched, rfl⟩
  | cons criterion rest ih =>
    rw [exclude]
    split
    next => exact ⟨matched, rfl⟩
    next =>
      obtain ⟨excluded, ran⟩ :=
        runs_leaf present none (compile criterion List.mem_cons_self)
      rw [run_bind, ran, ok_bind]
      exact ih (fun other member => compile other (List.mem_cons_of_mem _ member)) _

end SegmentScope

/-- All criteria that a search has put off are conditions. -/
def SegmentScope.Progress.Compiles (scope : LeafScope) : SegmentScope.Progress → Prop
  | .exhausted => True
  | .open _ excluding _ => ∀ criterion ∈ excluding, criterion.Compiles scope

include present in
theorem SegmentScope.runs_conclude {progress : SegmentScope.Progress}
    (compiles : progress.Compiles scope.toLeafScope) (fold : Option Fold) :
    ∃ found, (scope.conclude fold progress).run database = .ok found := by
  cases progress with
  | exhausted => exact ⟨[], rfl⟩
  | «open» matched excluding applied =>
    have started : ∃ found,
        (scope.conclude none (.open matched excluding applied)).run database = .ok found := by
      cases matched with
      | some matched => exact runs_exclude present compiles matched
      | none =>
        simp only [conclude, run_bind, run_every present, ok_bind]
        exact runs_exclude present compiles _
    cases fold with
    | none => exact started
    | some used =>
      cases applied with
      | false =>
        simp only [conclude, run_bind, run_matchFold present, ok_bind]
        exact runs_exclude present compiles _
      | true =>
        -- A fold that a positive criterion has carried is not asked for again.
        cases matched <;> exact started

variable (unprobed : scope.probing = false)

include present unprobed in
theorem SegmentScope.runs_searchSets_of {connective : Connective} {elements : List Element}
    {condition : Condition}
    (composed : Container.condition scope.toLeafScope scope.folding ⟨connective, elements⟩ =
      .ok condition)
    (every : ∀ fold conditions applied,
      Element.clauses scope.toLeafScope scope.folding fold 0 elements =
        .ok (conditions, applied) →
      ∃ progress, (Element.searchAnd scope fold 0 none [] false elements).run database =
        .ok progress ∧ progress.Compiles scope.toLeafScope)
    (some : ∀ conditions applied,
      Element.clauses scope.toLeafScope scope.folding none 0 elements =
        .ok (conditions, applied) →
      ∃ found, (Element.searchOr scope [] elements).run database = .ok found) :
    ∃ found, (scope.searchSets ⟨connective, elements⟩).run database = .ok found := by
  match connective, elements with
  | .and, [] => exact ⟨_, run_every present⟩
  | .or, [] => exact ⟨[], rfl⟩
  | .and, first :: rest =>
    obtain ⟨fold, wanted, composed⟩ := Container.condition_cons composed
    simp only [searchSets, conjunction, probe, unprobed, run_bind, run_done, ok_bind, ite_true,
      run_ofExcept, wanted, Bool.false_eq_true, ite_false]
    rcases composed with ⟨unsatisfiable, -⟩ | ⟨satisfiable, conditions, applied, clauses, -⟩
    · simp only [unsatisfiable, ite_true]
      exact ⟨[], rfl⟩
    · obtain ⟨progress, ran, compiles⟩ := every fold conditions applied clauses
      simp only [satisfiable, Bool.false_eq_true, ite_false, run_bind, ran, ok_bind]
      exact runs_conclude present compiles fold
  | .or, first :: rest =>
    obtain ⟨fold, wanted, composed⟩ := Container.condition_cons composed
    obtain rfl : none = fold := by
      rw [← Fold.used_of_wanted wanted, Fold.used_or]
    rcases composed with ⟨unsatisfiable, -⟩ | ⟨-, conditions, applied, clauses, -⟩
    · simp at unsatisfiable
    · exact some conditions applied clauses

include present unprobed

set_option linter.unusedSectionVars false

mutual

theorem Element.runs_search (element : Element) {fold : Option Fold} {condition : Condition}
    {applied : Bool} (composed : element.clause scope.toLeafScope scope.folding fold =
      .ok (condition, applied)) :
    ∃ found asked, (element.search scope fold).run database = .ok (found, asked) := by
  match element with
  | .leaf criterion =>
    obtain ⟨found, ran⟩ :=
      SegmentScope.runs_leaf present fold (Criterion.compiles_of_clause composed)
    rw [Element.search, run_bind, ran]
    exact ⟨found, fold.isSome, rfl⟩
  | .nested connective elements =>
    rw [Element.clause_nested] at composed
    rw [SegmentScope.search_nested]
    cases read : Fold.typesWanted scope.folding ⟨connective, elements⟩ with
    | some criterion =>
      simp only [read] at composed ⊢
      obtain ⟨found, ran⟩ :=
        SegmentScope.runs_leaf present fold (Criterion.compiles_of_clause composed)
      rw [run_bind, ran]
      exact ⟨found, fold.isSome, rfl⟩
    | none =>
      simp only [read] at composed ⊢
      obtain ⟨inner, composed, -⟩ := map_eq_ok.1 composed
      have ⟨found, ran⟩ := SegmentScope.runs_searchSets_of present unprobed composed
        (fun fold conditions applied clauses =>
          Element.runs_searchAnd elements clauses (by simp))
        (fun conditions applied clauses => Element.runs_searchOr elements clauses)
      rw [run_bind, ran]
      exact ⟨found, false, rfl⟩

theorem Element.runs_searchAnd (elements : List Element) {fold : Option Fold} {place : Nat}
    {matched : Option UriSet} {excluding : List Criterion} {asked : Bool}
    {conditions : List Condition} {applied : Bool}
    (composed : Element.clauses scope.toLeafScope scope.folding fold place elements =
      .ok (conditions, applied))
    (compile : ∀ criterion ∈ excluding, criterion.Compiles scope.toLeafScope) :
    ∃ progress, (Element.searchAnd scope fold place matched excluding asked elements).run
      database = .ok progress ∧ progress.Compiles scope.toLeafScope := by
  match elements with
  | [] =>
    rw [Element.searchAnd]
    exact ⟨_, rfl, compile⟩
  | element :: rest =>
    cases covered : fold.any (·.covers place) with
    | true =>
      rw [Element.clauses_covered covered] at composed
      rw [Element.searchAnd_covered covered]
      exact Element.runs_searchAnd rest composed compile
    | false =>
      obtain ⟨condition, others, first, later, head, tail, -, -⟩ :=
        Element.clauses_uncovered covered composed
      match element with
      | .leaf criterion =>
        have compiles := Criterion.compiles_of_clause head
        rw [Element.searchAnd_leaf covered]
        split
        next =>
          apply Element.runs_searchAnd rest tail
          intro other member
          rcases List.mem_append.1 member with old | new
          · exact compile other old
          · exact List.mem_singleton.1 new ▸ compiles
        next =>
          obtain ⟨found, ran⟩ := SegmentScope.runs_leaf present fold compiles
          rw [run_bind, ran, ok_bind]
          split
          next => exact ⟨.exhausted, rfl, trivial⟩
          next => exact Element.runs_searchAnd rest tail compile
      | .nested connective elements =>
        obtain ⟨found, carried, ran⟩ := Element.runs_search (.nested connective elements) head
        rw [Element.searchAnd_nested covered, run_bind, ran, ok_bind]
        dsimp only
        split
        next => exact ⟨.exhausted, rfl, trivial⟩
        next => exact Element.runs_searchAnd rest tail compile

theorem Element.runs_searchOr (elements : List Element) {place : Nat} {matched : UriSet}
    {conditions : List Condition} {applied : Bool}
    (composed : Element.clauses scope.toLeafScope scope.folding none place elements =
      .ok (conditions, applied)) :
    ∃ found, (Element.searchOr scope matched elements).run database = .ok found := by
  match elements with
  | [] => exact ⟨matched, rfl⟩
  | element :: rest =>
    obtain ⟨condition, others, first, later, head, tail, -, -⟩ :=
      Element.clauses_uncovered rfl composed
    obtain ⟨found, carried, ran⟩ := Element.runs_search element head
    rw [Element.searchOr, run_bind, ran, ok_bind]
    match element with
    | .leaf criterion =>
      dsimp only
      split
      next =>
        rw [run_bind, SegmentScope.run_every present, ok_bind]
        exact Element.runs_searchOr rest tail
      next => exact Element.runs_searchOr rest tail
    | .nested connective elements => exact Element.runs_searchOr rest tail

end

end Success

section Modes

variable {scope : SegmentScope} {database : Database} {records : List Record}

theorem SegmentScope.runs_searchSets (present : database.recordsOf scope.table = .ok records)
    (unprobed : scope.probing = false) {container : Container} {condition : Condition}
    (composed : container.condition scope.toLeafScope scope.folding = .ok condition) :
    ∃ found, (scope.searchSets container).run database = .ok found :=
  runs_searchSets_of present unprobed composed
    (fun _ _ _ clauses =>
      Element.runs_searchAnd present unprobed container.elements clauses (by simp))
    (fun _ _ clauses => Element.runs_searchOr present unprobed container.elements clauses)

mutual

theorem Element.run_probeNested (unprobed : scope.probing = false) (element : Element) :
    (element.probeNested scope).run database = .ok true := by
  match element with
  | .leaf criterion => rw [Element.probeNested, run_done]
  | .nested .or elements => rw [Element.probeNested, run_done]
  | .nested .and elements =>
    simp only [Element.probeNested, SegmentScope.probe, unprobed, Bool.false_eq_true, ite_false,
      run_bind, run_done, ok_bind, ite_true]
    exact Element.run_probeNestedAll unprobed elements

theorem Element.run_probeNestedAll (unprobed : scope.probing = false) (elements : List Element) :
    (Element.probeNestedAll scope elements).run database = .ok true := by
  match elements with
  | [] => rw [Element.probeNestedAll, run_done]
  | element :: rest =>
    rw [Element.probeNestedAll, run_bind, Element.run_probeNested unprobed element, ok_bind]
    exact Element.run_probeNestedAll unprobed rest

end

theorem SegmentScope.run_searchComposed (present : database.recordsOf scope.table = .ok records)
    (unprobed : scope.probing = false) {container : Container} {condition : Condition}
    (composed : container.condition scope.toLeafScope scope.folding = .ok condition) :
    (scope.searchComposed container).run database =
      if condition.depth ≤ Database.deepest then
        .ok (condition.found database.patterns records)
      else .error .storage := by
  rw [searchComposed, run_bind, Element.run_probeNested unprobed, ok_bind, if_pos rfl, run_bind,
    run_ofExcept, composed, ok_bind, run_bind, run_reach]
  split
  next readable => rw [ok_bind, run_bind, run_ask present, ok_bind, run_pure, Condition.found]
  next unreadable => rw [error_bind]

end Modes

/-! Either way of searching finds the objects that match, with reliable probes too. -/

section Probed

variable {scope : SegmentScope} {database : Database} {records : List Record} {reading : Reading}
  {p : List Element → Prop}

theorem Element.run_probeNestedAll_leaves (criteria : List Criterion) :
    (Element.probeNestedAll scope (criteria.map .leaf)).run database = .ok true := by
  induction criteria with
  | nil => rw [List.map_nil, Element.probeNestedAll, run_done]
  | cons criterion rest ih =>
    rw [List.map_cons, Element.probeNestedAll, run_bind, Element.probeNested, run_done, ok_bind]
    exact ih

/-- Where an object matches a container that is read as one type criterion, each of the container's
own criteria has a row. -/
theorem Container.isFound_of_typesWanted
    (describes : reading.Describes scope.toLeafScope database.patterns records) {folding : Bool}
    {elements : List Element} {types : TypeCriterion}
    (read : Fold.typesWanted folding ⟨.and, elements⟩ = some types) {uri : String}
    (matching : reading.leaf none (.type types) uri) {criterion : Criterion}
    (member : criterion ∈ Container.probes ⟨.and, elements⟩) :
    criterion.IsFound database.patterns records := by
  obtain ⟨-, named, criteria, rfl, shape⟩ := Fold.typesWanted_eq_some read
  obtain ⟨listed, affirmed, -⟩ := Container.mem_probes member
  obtain ⟨part, present, same⟩ := List.mem_map.1 listed
  obtain rfl := Element.leaf.inj same
  rcases shape with ⟨other, -⟩ | ⟨-, different, rfl⟩
  · exact absurd other (by simp)
  have differs : part.comparator = .ne := different part present affirmed
  have normal : (TypeCriterion.noneOf (criteria.flatMap (·.types))).IsNormal := ⟨rfl, rfl, named⟩
  obtain ⟨whole, compiled⟩ := TypeCriterion.exists_condition normal
  obtain ⟨record, listed, same, holds⟩ :=
    (describes.leaf (Criterion.leafCondition_type compiled _) uri).1 matching
  simp only [Condition.holds_all, List.mem_cons, List.not_mem_nil, or_false, forall_eq_or_imp,
    forall_eq, TypeCriterion.holds_condition compiled] at holds
  obtain ⟨ofType, spared⟩ := holds
  intro probe asked
  obtain ⟨condition, made, -⟩ := bind_eq_ok.1 asked
  rw [Criterion.probeCondition_type made] at asked
  obtain rfl := Except.ok.inj asked
  refine ⟨uri, record, listed, same, ?_⟩
  simp only [Condition.holds_all, List.mem_cons, List.not_mem_nil, or_false, forall_eq_or_imp,
    forall_eq, TypeCriterion.holds_condition made]
  have exclusive : ¬ part.isInclusive = true := by simp [TypeCriterion.isInclusive, differs]
  refine ⟨ofType, iff_of_false exclusive fun among => ?_⟩
  obtain ⟨type, listed, same⟩ := TypeCriterion.exists_of_mem_compared among
  have inside : record.vitaltype ∈
      (TypeCriterion.noneOf (criteria.flatMap (·.types))).compared :=
    List.mem_map.2 ⟨type, List.mem_flatMap.2 ⟨part, present, listed⟩, same⟩
  exact absurd (spared.2 inside) (by simp [TypeCriterion.isInclusive, TypeCriterion.noneOf])

variable (present : database.recordsOf scope.table = .ok records)
  (describes : reading.Describes scope.toLeafScope database.patterns records)
include present describes

/-- A container that is read as one type criterion and in which probing fails is not matched. -/
theorem Element.unmatched_of_typesWanted {elements : List Element} {types : TypeCriterion}
    {uri : String}
    (read : Fold.typesWanted scope.folding ⟨.and, elements⟩ = some types)
    (ran : ((Element.nested .and elements).probeNested scope).run database = .ok false) :
    ¬ reading.leaf none (.type types) uri := by
  intro matching
  rw [Element.probeNested, run_bind, bind_eq_ok] at ran
  obtain ⟨probed, first, ran⟩ := ran
  cases probed with
  | false =>
    obtain ⟨-, criterion, member, missing⟩ := SegmentScope.exists_of_run_probe present first
    exact missing (Container.isFound_of_typesWanted describes read matching member)
  | true =>
    obtain ⟨-, -, criteria, same, -⟩ := Fold.typesWanted_eq_some read
    have leaves : elements = (criteria.map .type).map .leaf := by rw [same, List.map_map]; rfl
    subst leaves
    exact absurd (ran.symm.trans (Element.run_probeNestedAll_leaves _)) (by simp)

variable (trusts : scope.Trusts reading database.patterns records p)
include trusts

section Unmatched

variable {uri : String} (known : reading.known uri)
include known

omit describes in
/-- A container in which probing fails somewhere among its elements is not matched: one with a fold
has no containers among them. -/
theorem Container.unmatched_of_probe {elements : List Element} (whole : p elements)
    (parts : (Element.probeNestedAll scope elements).run database = .ok false →
      ¬ Element.MatchesAll reading scope.folding none uri 0 elements)
    (ran : ((Element.nested .and elements).probeNested scope).run database = .ok false) :
    ¬ Container.Matches reading scope.folding ⟨.and, elements⟩ uri := by
  rw [Element.probeNested, run_bind, bind_eq_ok] at ran
  obtain ⟨probed, first, ran⟩ := ran
  cases probed with
  | false => exact trusts.unmatched present whole first known
  | true =>
    intro affirmed
    obtain ⟨-, every, -⟩ := affirmed
    cases used : Fold.used scope.folding ⟨.and, elements⟩ with
    | none => exact parts ran (used ▸ every)
    | some fold =>
      obtain ⟨-, -, criteria, rfl, -⟩ := Fold.merges_of_used used
      exact absurd (ran.symm.trans (Element.run_probeNestedAll_leaves criteria)) (by simp)

set_option linter.unusedSectionVars false in
mutual

theorem Element.unmatched_of_probeNested (element : Element)
    (each : element.EachAnd scope.folding p)
    (ran : (element.probeNested scope).run database = .ok false) :
    ¬ element.Matches reading scope.folding none uri := by
  match element with
  | .leaf criterion => exact absurd (Except.ok.inj ran) (by simp)
  | .nested .or elements => exact absurd (Except.ok.inj ran) (by simp)
  | .nested .and elements =>
    rw [Element.matches_nested]
    cases read : Fold.typesWanted scope.folding ⟨.and, elements⟩ with
    | none =>
      exact Container.unmatched_of_probe present trusts known (each.1 rfl read)
        (Element.unmatched_of_probeNestedAll elements each.2 0) ran
    | some types =>
      exact Element.unmatched_of_typesWanted present describes read ran

theorem Element.unmatched_of_probeNestedAll (elements : List Element)
    (each : Element.EachAndAll scope.folding p elements) (place : Nat)
    (ran : (Element.probeNestedAll scope elements).run database = .ok false) :
    ¬ Element.MatchesAll reading scope.folding none uri place elements := by
  match elements with
  | [] => exact absurd (Except.ok.inj ran) (by simp)
  | element :: rest =>
    rw [Element.probeNestedAll, run_bind, bind_eq_ok] at ran
    obtain ⟨probed, first, ran⟩ := ran
    intro all
    obtain ⟨here, others⟩ := all
    cases probed with
    | false => exact Element.unmatched_of_probeNested element each.1 first (here rfl)
    | true => exact Element.unmatched_of_probeNestedAll rest each.2 (place + 1) ran others

end

end Unmatched

variable {container : Container} (each : container.EachAnd scope.folding p) {found : UriSet}
include each

namespace SegmentScope

theorem finds_searchComposed (ran : (scope.searchComposed container).run database = .ok found) :
    Finds reading found (container.Matches reading scope.folding) := by
  rw [searchComposed, run_bind, bind_eq_ok] at ran
  obtain ⟨probed, first, ran⟩ := ran
  cases probed with
  | false =>
    obtain rfl := Except.ok.inj ran
    refine .nil fun uri known => ?_
    match container with
    | ⟨.or, elements⟩ => exact absurd (Except.ok.inj first) (by simp)
    | ⟨.and, elements⟩ =>
      exact Container.unmatched_of_probe present trusts known (each.1 rfl)
        (Element.unmatched_of_probeNestedAll present describes trusts known elements each.2 0)
        first
  | true =>
    rw [if_pos rfl, run_bind, run_ofExcept, bind_eq_ok] at ran
    obtain ⟨condition, composed, ran⟩ := ran
    rw [run_bind, bind_eq_ok] at ran
    obtain ⟨_, -, ran⟩ := ran
    rw [run_bind, run_ask present, ok_bind] at ran
    obtain rfl := Except.ok.inj ran
    apply (describes.finds_found condition).congr
    intro uri known
    rw [Container.selects_condition describes composed, and_iff_right known]

/-- A search finds the objects that match, in either mode, as far as its probes can be relied on. -/
theorem finds_search (mode : ExecutionMode)
    (ran : (scope.search mode container).run database = .ok found) :
    Finds reading found (container.Matches reading scope.folding) := by
  cases mode with
  | setAlgebra => exact finds_searchSets present describes trusts each ran
  | singleStatement => exact finds_searchComposed present describes trusts each ran

end SegmentScope

end Probed

end GraphSegments
