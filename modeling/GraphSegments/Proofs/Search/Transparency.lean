import GraphSegments.Proofs.Search.Probing

/-!
Probing is transparent. Where a search without probes comes to a set, the search that probes comes
to the same set: a probe that fails ends a search early, and only one that finds nothing.
-/

namespace GraphSegments
open Results Dialogue UriSet

/-- The same search without probes. -/
def SegmentScope.unprobed (scope : SegmentScope) : SegmentScope := { scope with probing := false }

/-! Criteria in normal form can be probed. -/

theorem Criterion.exists_probeCondition {criterion : Criterion} (normal : criterion.IsNormal) :
    ∃ condition, criterion.probeCondition = .ok condition := by
  cases criterion with
  | property criterion => exact ⟨_, rfl⟩
  | type criterion =>
    obtain ⟨condition, compiled⟩ := TypeCriterion.exists_condition normal
    exact ⟨_, probeCondition_type compiled⟩

section Probes

variable {scope : SegmentScope} {database : Database} {records : List Record}
  (present : database.recordsOf scope.table = .ok records)
include present

theorem SegmentScope.runs_probeEach {criteria : List Criterion}
    (normal : ∀ criterion ∈ criteria, criterion.IsNormal) :
    ∃ probed, (scope.probeEach criteria).run database = .ok probed := by
  induction criteria with
  | nil => exact ⟨true, rfl⟩
  | cons criterion rest ih =>
    obtain ⟨condition, compiled⟩ :=
      Criterion.exists_probeCondition (normal criterion List.mem_cons_self)
    rw [probeEach, run_bind, run_ofExcept, compiled, ok_bind, run_bind, run_probe present, ok_bind]
    split
    next => exact ⟨false, rfl⟩
    next => exact ih fun other member => normal other (List.mem_cons_of_mem _ member)

theorem SegmentScope.runs_probe {elements : List Element}
    (normal : Element.EveryAll Criterion.IsNormal elements) :
    ∃ probed, (scope.probe ⟨.and, elements⟩).run database = .ok probed := by
  unfold probe
  split
  next =>
    exact runs_probeEach present fun criterion member =>
      normal.of_leaf_mem (Container.mem_probes member).1
  next => exact ⟨true, rfl⟩

set_option linter.unusedSectionVars false in
mutual

theorem Element.runs_probeNested (element : Element) (normal : element.Every Criterion.IsNormal) :
    ∃ probed, (element.probeNested scope).run database = .ok probed := by
  match element with
  | .leaf criterion => exact ⟨true, rfl⟩
  | .nested .or elements => exact ⟨true, rfl⟩
  | .nested .and elements =>
    obtain ⟨probed, ran⟩ := SegmentScope.runs_probe present normal
    rw [Element.probeNested, run_bind, ran, ok_bind]
    cases probed with
    | false => exact ⟨false, rfl⟩
    | true => exact Element.runs_probeNestedAll elements normal

theorem Element.runs_probeNestedAll (elements : List Element)
    (normal : Element.EveryAll Criterion.IsNormal elements) :
    ∃ probed, (Element.probeNestedAll scope elements).run database = .ok probed := by
  match elements with
  | [] => exact ⟨true, rfl⟩
  | element :: rest =>
    obtain ⟨probed, ran⟩ := Element.runs_probeNested element normal.1
    rw [Element.probeNestedAll, run_bind, ran, ok_bind]
    cases probed with
    | false => exact ⟨false, rfl⟩
    | true => exact Element.runs_probeNestedAll rest normal.2

end

end Probes

/-! What does not probe does not change. -/

namespace SegmentScope

variable (scope : SegmentScope)

theorem unprobed_folding : scope.unprobed.folding = scope.folding := rfl

theorem unprobed_leaf (fold : Option Fold) (criterion : Criterion) :
    scope.unprobed.leaf fold criterion = scope.leaf fold criterion := rfl

theorem unprobed_every : scope.unprobed.every = scope.every := rfl

theorem unprobed_exclude (matched : UriSet) (excluding : List Criterion) :
    scope.unprobed.exclude matched excluding = scope.exclude matched excluding := by
  induction excluding generalizing matched with
  | nil => rfl
  | cons criterion rest ih => simp only [exclude, unprobed_leaf, ih]

theorem unprobed_conclude (fold : Option Fold) (progress : Progress) :
    scope.unprobed.conclude fold progress = scope.conclude fold progress := by
  cases progress with
  | exhausted => rfl
  | «open» matched excluding applied =>
    simp only [conclude, unprobed_exclude]
    rfl

end SegmentScope

section Transparent

variable {scope : SegmentScope} {database : Database} {records : List Record} {reading : Reading}
  {p : List Element → Prop} (present : database.recordsOf scope.table = .ok records)
  (describes : reading.Describes scope.toLeafScope database.patterns records)
include present describes

/-- A search without probes finds the objects that match, whatever the table. -/
theorem SegmentScope.finds_unprobed {container : Container} {found : UriSet} (mode : ExecutionMode)
    (ran : (scope.unprobed.search mode container).run database = .ok found) :
    Finds reading found (container.Matches reading scope.folding) := by
  have present : database.recordsOf scope.unprobed.table = .ok records := present
  have each : container.EachAnd scope.folding (Element.EveryAll fun _ => True) :=
    Container.eachAnd_of_every (Element.everyAll_of_forall (fun _ => trivial) container.elements)
  exact finds_search present describes (trusts_of_unprobed rfl) each mode ran

variable (trusts : scope.Trusts reading database.patterns records p)
include trusts

/-- The search of a container is as transparent as that of its elements. -/
theorem SegmentScope.searchSets_of_unprobed {connective : Connective} {elements : List Element}
    {found : UriSet} (whole : connective = .and → p elements)
    (normal : Element.EveryAll Criterion.IsNormal elements)
    (every : ∀ fold progress,
      (Element.searchAnd scope.unprobed fold 0 none [] false elements).run database =
        .ok progress →
      (Element.searchAnd scope fold 0 none [] false elements).run database = .ok progress)
    (some : ∀ found, (Element.searchOr scope.unprobed [] elements).run database = .ok found →
      (Element.searchOr scope [] elements).run database = .ok found)
    (ran : (scope.unprobed.searchSets ⟨connective, elements⟩).run database = .ok found) :
    (scope.searchSets ⟨connective, elements⟩).run database = .ok found := by
  match connective, elements with
  | .and, [] => exact ran
  | .or, [] => exact ran
  | .or, first :: rest => exact some found ran
  | .and, first :: rest =>
    have finds : Finds reading found
        (Container.Matches reading scope.folding ⟨.and, first :: rest⟩) :=
      finds_unprobed present describes .setAlgebra ran
    obtain ⟨probed, asked⟩ := runs_probe present normal
    simp only [searchSets, conjunction, run_bind, asked, ok_bind]
    cases probed with
    | false =>
      have nothing : Finds reading []
          (Container.Matches reading scope.folding ⟨.and, first :: rest⟩) :=
        .nil fun uri known => trusts.unmatched present (whole rfl) asked known
      exact congrArg Except.ok (nothing.unique finds fun _ _ => Iff.rfl)
    | true =>
      have free : (scope.unprobed.probe ⟨.and, first :: rest⟩).run database = .ok true := rfl
      simp only [searchSets, conjunction, run_bind, free, ok_bind, ite_true, run_ofExcept,
        bind_eq_ok] at ran ⊢
      obtain ⟨fold, wanted, ran⟩ := ran
      refine ⟨fold, wanted, ?_⟩
      split at ran
      next unsatisfiable => rwa [if_pos unsatisfiable]
      next satisfiable =>
        rw [if_neg satisfiable, run_bind]
        rw [run_bind, bind_eq_ok] at ran
        obtain ⟨progress, searched, ran⟩ := ran
        rw [every fold progress searched, ok_bind]
        rwa [unprobed_conclude] at ran

set_option linter.unusedSectionVars false

mutual

theorem Element.search_of_unprobed (element : Element) (each : element.EachAnd scope.folding p)
    (normal : element.Every Criterion.IsNormal) {fold : Option Fold} {found : UriSet}
    {asked : Bool}
    (ran : (element.search scope.unprobed fold).run database = .ok (found, asked)) :
    (element.search scope fold).run database = .ok (found, asked) := by
  match element with
  | .leaf criterion => exact ran
  | .nested connective elements =>
    rw [SegmentScope.search_nested] at ran ⊢
    rw [SegmentScope.unprobed_folding] at ran
    cases read : Fold.typesWanted scope.folding ⟨connective, elements⟩ with
    | some criterion =>
      simp only [read] at ran ⊢
      exact ran
    | none =>
      simp only [read] at ran ⊢
      rw [run_bind, bind_eq_ok] at ran
      obtain ⟨first, searched, ran⟩ := ran
      rw [run_bind, SegmentScope.searchSets_of_unprobed present describes trusts
        (fun same => each.1 same read) normal
        (fun fold progress => Element.searchAnd_of_unprobed elements each.2 normal)
        (fun found => Element.searchOr_of_unprobed elements each.2 normal) searched]
      exact ran

theorem Element.searchAnd_of_unprobed (elements : List Element)
    (each : Element.EachAndAll scope.folding p elements)
    (normal : Element.EveryAll Criterion.IsNormal elements) {fold : Option Fold} {place : Nat}
    {matched : Option UriSet} {excluding : List Criterion} {applied : Bool}
    {progress : SegmentScope.Progress}
    (ran : (Element.searchAnd scope.unprobed fold place matched excluding applied elements).run
      database = .ok progress) :
    (Element.searchAnd scope fold place matched excluding applied elements).run database =
      .ok progress := by
  match elements with
  | [] => exact ran
  | element :: rest =>
    cases covered : fold.any (·.covers place) with
    | true =>
      rw [Element.searchAnd_covered covered] at ran ⊢
      exact Element.searchAnd_of_unprobed rest each.2 normal.2 ran
    | false =>
      match element with
      | .leaf criterion =>
        rw [Element.searchAnd_leaf covered] at ran ⊢
        split at ran
        next negative =>
          rw [if_pos negative]
          exact Element.searchAnd_of_unprobed rest each.2 normal.2 ran
        next positive =>
          rw [run_bind, bind_eq_ok] at ran
          obtain ⟨found, searched, ran⟩ := ran
          rw [SegmentScope.unprobed_leaf] at searched
          rw [if_neg positive, run_bind, searched, ok_bind]
          split at ran
          next empty => rwa [if_pos empty]
          next some =>
            rw [if_neg some]
            exact Element.searchAnd_of_unprobed rest each.2 normal.2 ran
      | .nested connective elements =>
        rw [Element.searchAnd_nested covered, run_bind] at ran ⊢
        rw [bind_eq_ok] at ran
        obtain ⟨⟨found, asked⟩, searched, ran⟩ := ran
        rw [Element.search_of_unprobed (.nested connective elements) each.1 normal.1 searched,
          ok_bind]
        dsimp only at ran ⊢
        split at ran
        next empty => rwa [if_pos empty]
        next some =>
          rw [if_neg some]
          exact Element.searchAnd_of_unprobed rest each.2 normal.2 ran

theorem Element.searchOr_of_unprobed (elements : List Element)
    (each : Element.EachAndAll scope.folding p elements)
    (normal : Element.EveryAll Criterion.IsNormal elements) {matched found : UriSet}
    (ran : (Element.searchOr scope.unprobed matched elements).run database = .ok found) :
    (Element.searchOr scope matched elements).run database = .ok found := by
  match elements with
  | [] => exact ran
  | element :: rest =>
    rw [Element.searchOr, run_bind] at ran ⊢
    rw [bind_eq_ok] at ran
    obtain ⟨⟨first, asked⟩, searched, ran⟩ := ran
    rw [Element.search_of_unprobed element each.1 normal.1 searched, ok_bind]
    match element with
    | .leaf criterion =>
      dsimp only at ran ⊢
      split at ran
      next negative =>
        rw [run_bind, SegmentScope.unprobed_every, bind_eq_ok] at ran
        obtain ⟨all, asked, ran⟩ := ran
        rw [if_pos negative, run_bind, asked, ok_bind]
        exact Element.searchOr_of_unprobed rest each.2 normal.2 ran
      next positive =>
        rw [if_neg positive]
        exact Element.searchOr_of_unprobed rest each.2 normal.2 ran
    | .nested connective elements =>
      exact Element.searchOr_of_unprobed rest each.2 normal.2 ran

end

variable {container : Container} (each : container.EachAnd scope.folding p)
  (normal : container.Every Criterion.IsNormal) {found : UriSet}
include each normal

namespace SegmentScope

theorem searchComposed_of_unprobed
    (ran : (scope.unprobed.searchComposed container).run database = .ok found) :
    (scope.searchComposed container).run database = .ok found := by
  have finds := finds_unprobed present describes .singleStatement ran
  obtain ⟨probed, asked⟩ := Element.runs_probeNested present container.asElement normal
  rw [searchComposed, run_bind, asked, ok_bind]
  cases probed with
  | true =>
    rw [searchComposed, run_bind, Element.run_probeNested rfl, ok_bind, if_pos rfl] at ran
    exact ran
  | false =>
    obtain ⟨connective, elements⟩ := container
    cases connective with
    | or => exact absurd (Except.ok.inj asked) (by simp)
    | and =>
      have nothing : Finds reading [] (Container.Matches reading scope.folding ⟨.and, elements⟩) :=
        .nil fun uri known => Container.unmatched_of_probe present trusts known (each.1 rfl)
          (Element.unmatched_of_probeNestedAll present describes trusts known elements each.2 0)
          asked
      exact congrArg Except.ok (nothing.unique finds fun _ _ => Iff.rfl)

/-- A search whose probes can be relied on comes to what it comes to without probes. -/
theorem search_of_unprobed (mode : ExecutionMode)
    (ran : (scope.unprobed.search mode container).run database = .ok found) :
    (scope.search mode container).run database = .ok found := by
  cases mode with
  | setAlgebra =>
    exact searchSets_of_unprobed present describes trusts each.1 normal
      (fun fold progress =>
        Element.searchAnd_of_unprobed present describes trusts container.elements each.2 normal)
      (fun found =>
        Element.searchOr_of_unprobed present describes trusts container.elements each.2 normal) ran
  | singleStatement => exact searchComposed_of_unprobed present describes trusts each normal ran

end SegmentScope

end Transparent

/-- Probing makes no difference to a search that succeeds without it: on any table without folds,
and with folds on the rows of objects, as long as criteria are probed as they are folded. -/
theorem SegmentScope.probing_agrees (scope : SegmentScope) (mode : ExecutionMode)
    (database : Database) (records : List Record) (raw criteria : Container) (found : UriSet)
    (present : database.recordsOf scope.table = .ok records)
    (normalized : raw.normalize scope.registry = .ok criteria)
    (reliable : scope.folding = false ∨ ∃ registry objects rows,
      GraphObject.allToRows registry objects = .ok rows ∧ records = rows.map .ofRow ∧
        criteria.EachAnd true (Container.ProbesAsFolded registry))
    (off : ({ scope with probing := false }.search mode criteria).run database = .ok found) :
    ({ scope with probing := true }.search mode criteria).run database = .ok found := by
  have normal := Container.normal_of_normalize normalized
  have describes := Reading.describes_ofRecords scope.toLeafScope database.patterns records
  have agrees {p : List Element → Prop} (each : criteria.EachAnd scope.folding p)
      (trusts : SegmentScope.Trusts { scope with probing := true }
        (.ofRecords scope.toLeafScope database.patterns records) database.patterns records p) :
      ({ scope with probing := true }.search mode criteria).run database = .ok found := by
    have present : database.recordsOf (SegmentScope.table { scope with probing := true }) =
      .ok records := present
    exact search_of_unprobed present describes trusts each normal mode off
  by_cases folding : scope.folding = true
  · rcases reliable with unfolded | ⟨registry, objects, rows, written, rfl, alike⟩
    · exact absurd (unfolded.symm.trans folding) (by simp)
    · exact agrees (folding ▸ alike) (trusts_of_written written folding)
  · have unfolded : scope.folding = false := by simpa using folding
    exact agrees (Container.eachAnd_of_every normal) (trusts_of_unfolded unfolded)

/-- A node by its class and its timestamp, both of them folded and probed. -/
theorem SegmentScope.probing_agrees_stamped :
    let scope : SegmentScope := ⟨⟨.core, .sqlite⟩, "notes", 0, false, true⟩
    let object : GraphObject := (GraphObject.ofClass "urn:a" Vocabulary.nodeClass).set
      Vocabulary.hasTimestamp (.single (.long 7))
    let rows := (GraphObject.allToRows .core [object]).toOption.getD []
    let database := Database.ofTable "notes" (rows.map .ofRow)
    let criteria : Container :=
      ⟨.and, [.leaf (.type ⟨[Vocabulary.nodeClass], .eq, false, false⟩),
        .leaf (.property
          ⟨Vocabulary.hasTimestamp, .ge, some (.single (.long 5)), false, false, []⟩)]⟩
    GraphObject.allToRows .core [object] = .ok rows ∧
      ({ scope with probing := true }.search .singleStatement criteria).run database =
        .ok ["urn:a"] := by
  intro scope object rows database criteria
  have written : GraphObject.allToRows .core [object] = .ok rows :=
    eq_ok_of_toOption (by decide +kernel)
  have off : ({ scope with probing := false }.search .singleStatement criteria).run database =
      .ok ["urn:a"] := eq_ok_of_toOption (by decide +kernel)
  have alike : criteria.EachAnd true (Container.ProbesAsFolded .core) := by
    refine ⟨fun _ fold used criterion place listed covers member => ?_, trivial, trivial, trivial⟩
    simp only [criteria, List.zipIdx, List.mem_cons, Prod.mk.injEq, Element.leaf.injEq,
      List.not_mem_nil, or_false] at listed
    rcases listed with ⟨rfl, -⟩ | ⟨rfl, -⟩
    · exact fun type known told => told
    · exact ⟨by decide, fun none => absurd none (by decide)⟩
  exact ⟨written, probing_agrees scope .singleStatement database (rows.map .ofRow) criteria criteria
    ["urn:a"] (Database.recordsOf_ofTable _ _) (by rfl)
    (.inr ⟨.core, [object], rows, written, rfl, alike⟩) off⟩

/-- A class that is excluded in an older version is not excluded by the fold, which takes it as it
is given, but by its probe. -/
theorem SegmentScope.probing_loses_versioned_class :
    let scope : SegmentScope := ⟨⟨.core, .sqlite⟩, "notes", 0, false, true⟩
    let object : GraphObject := (GraphObject.ofClass "urn:a" Vocabulary.nodeClass).set
      Vocabulary.hasTimestamp (.single (.long 7))
    let rows := (GraphObject.allToRows .core [object]).toOption.getD []
    let database := Database.ofTable "notes" (rows.map .ofRow)
    let criteria : Container :=
      ⟨.and, [.leaf (.type
          ⟨["http://vital.ai/ontology/vital-core_v0_1_0#VITAL_Node"], .ne, false, false⟩),
        .leaf (.property ⟨Vocabulary.hasTimestamp, .present, none, false, false, []⟩)]⟩
    GraphObject.allToRows .core [object] = .ok rows ∧
      criteria.normalize .core = .ok criteria ∧
      ({ scope with probing := false }.search .setAlgebra criteria).run database =
        .ok ["urn:a"] ∧
      ({ scope with probing := true }.search .setAlgebra criteria).run database = .ok [] := by
  intro scope object rows database criteria
  exact ⟨eq_ok_of_toOption (by decide +kernel), by rfl, eq_ok_of_toOption (by decide +kernel),
    eq_ok_of_toOption (by decide +kernel)⟩

end GraphSegments
