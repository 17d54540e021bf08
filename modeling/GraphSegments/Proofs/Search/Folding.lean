import GraphSegments.Proofs.Search.Echoes
import GraphSegments.Proofs.Search.Probing

/-!
Folding makes no difference to what a search finds on a consistent table. The fold of a container
means what the criteria that it covers mean, and asking for it along with other criteria, or on its
own, comes to the same.
-/

namespace GraphSegments
open Results Dialogue UriSet

/-- The criteria with which a fold can be compared. -/
def Criterion.IsFoldable (criterion : Criterion) : Prop :=
  criterion.IsNormal ∧ criterion.IsSettled

section Consistent

variable (scope : LeafScope) (patterns : Patterns) {rows : List Row}
  (keeps : scope.registry.KeepsCore) (consistent : Row.Consistent rows)
include keeps consistent

/-- On a consistent table a fold selects the objects that each of the criteria covered selects, and
it is satisfied by all rows of such an object. -/
theorem Fold.Merges.holds_iff {fold : Fold} {criteria : List Criterion}
    (merges : fold.Merges criteria)
    (foldable : ∀ criterion ∈ criteria, criterion.IsFoldable) {row : Row} (member : row ∈ rows) :
    (fold.condition.holds patterns (rows.map .ofRow) (.ofRow row) = true ↔
      ∀ x ∈ criteria.zipIdx, fold.covers x.2 = true →
        (Reading.ofRecords scope patterns (rows.map .ofRow)).leaf none x.1 row.uri) := by
  rw [merges.holds]
  apply forall₂_congr
  intro x listed
  apply forall_congr'
  intro covered
  obtain ⟨normal, settled⟩ := foldable x.1 (List.fst_mem_of_mem_zipIdx listed)
  obtain ⟨condition, compiled, selects⟩ := x.1.selects_echo patterns keeps consistent
    normal settled (merges.echoed x listed covered) member
  rw [← selects, ((Reading.describes_ofRecords scope patterns _).leaf compiled row.uri)]

/-- A criterion asked along with a fold selects what both select. -/
theorem Fold.Merges.leaf_iff {fold : Fold} {criteria : List Criterion}
    (merges : fold.Merges criteria)
    (foldable : ∀ criterion ∈ criteria, criterion.IsFoldable) (criterion : Criterion) {row : Row}
    (member : row ∈ rows) :
    (Reading.ofRecords scope patterns (rows.map .ofRow)).leaf (some fold) criterion row.uri ↔
      fold.condition.holds patterns (rows.map .ofRow) (.ofRow row) = true ∧
      (Reading.ofRecords scope patterns (rows.map .ofRow)).leaf none criterion row.uri := by
  have alike {other : Row} (present : other ∈ rows) (same : other.uri = row.uri) :
      fold.condition.holds patterns (rows.map .ofRow) (.ofRow other) = true ↔
        fold.condition.holds patterns (rows.map .ofRow) (.ofRow row) = true := by
    rw [merges.holds_iff scope patterns keeps consistent foldable present,
      merges.holds_iff scope patterns keeps consistent foldable member, same]
  simp only [Reading.ofRecords, Criterion.leafCondition]
  cases criterion.demand? scope with
  | error error => simp
  | ok demand =>
    simp only [ok_bind]
    constructor
    · intro carried
      obtain ⟨condition, composed, selects⟩ := carried
      obtain rfl := Except.ok.inj composed
      obtain ⟨other, present, same, holds⟩ := Condition.selects_rows.1 selects
      rw [Condition.holds_all] at holds
      refine ⟨(alike present same).1 (holds _ (by simp)), _, rfl,
        Condition.selects_rows.2 ⟨other, present, same, ?_⟩⟩
      rw [Condition.holds_all]
      exact fun part listed => holds part (by simp_all)
    · intro carried
      obtain ⟨folded, condition, composed, selects⟩ := carried
      obtain rfl := Except.ok.inj composed
      obtain ⟨other, present, same, holds⟩ := Condition.selects_rows.1 selects
      rw [Condition.holds_all] at holds
      refine ⟨_, rfl, Condition.selects_rows.2 ⟨other, present, same, ?_⟩⟩
      rw [Condition.holds_all]
      intro part listed
      rcases List.mem_cons.1 listed with rfl | listed
      · exact (alike present same).2 folded
      · exact holds part listed

/-- On a consistent table a container that is folded means what its criteria mean one by one. -/
theorem Fold.Merges.matches_iff {fold : Fold} {criteria : List Criterion}
    (merges : fold.Merges criteria) (foldable : ∀ criterion ∈ criteria, criterion.IsFoldable)
    (used : Fold.used true ⟨.and, criteria.map .leaf⟩ = some fold) {row : Row}
    (member : row ∈ rows) :
    Container.Matches (.ofRecords scope patterns (rows.map .ofRow)) true
        ⟨.and, criteria.map .leaf⟩ row.uri ↔
      ∀ criterion ∈ criteria,
        criterion.Matches (.ofRecords scope patterns (rows.map .ofRow)) none row.uri := by
  have whole := merges.holds_iff scope patterns keeps consistent foldable member
  have along := merges.leaf_iff scope patterns keeps consistent foldable
  have alike (folded : fold.condition.holds patterns (rows.map .ofRow) (.ofRow row) = true)
      (criterion : Criterion) :
      criterion.Matches (.ofRecords scope patterns (rows.map .ofRow)) (some fold) row.uri ↔
        criterion.Matches (.ofRecords scope patterns (rows.map .ofRow)) none row.uri := by
    unfold Criterion.Matches
    split
    next => rfl
    next => rw [along criterion member, and_iff_right folded]
  constructor
  · intro matching criterion listed
    obtain ⟨other, among, same, holds⟩ :=
      Condition.selects_rows.1 (Container.selects_fold used matching)
    have folded : fold.condition.holds patterns (rows.map .ofRow) (.ofRow row) = true := by
      rw [merges.holds_iff scope patterns keeps consistent foldable among, same] at holds
      exact whole.2 holds
    obtain ⟨-, every, -⟩ := matching
    rw [used, Element.matchesAll_leaves] at every
    obtain ⟨place, present⟩ := exists_place listed
    cases covered : fold.covers place with
    | true =>
      have positive := Criterion.positive_of_echo (merges.echoed _ present covered)
      simp only [Criterion.Matches, positive, Bool.false_eq_true, ite_false]
      exact whole.1 folded _ present covered
    | false => exact (alike folded _).1 (every _ present (by simpa using covered))
  · intro every
    have folded : fold.condition.holds patterns (rows.map .ofRow) (.ofRow row) = true := by
      apply whole.2
      intro x present covered
      have positive := Criterion.positive_of_echo (merges.echoed _ present covered)
      have matching := every x.1 (List.fst_mem_of_mem_zipIdx present)
      simpa [Criterion.Matches, positive] using matching
    unfold Container.Matches Container.Joins
    simp only [used]
    refine ⟨?_, ?_, ?_⟩
    · exact Fold.satisfiable_of_holds folded
    · rw [Element.matchesAll_leaves]
      exact fun x present _ =>
        (alike folded x.1).2 (every x.1 (List.fst_mem_of_mem_zipIdx present))
    · intro other same _
      obtain rfl := Option.some.inj same
      exact Condition.selects_rows.2 ⟨row, member, rfl, folded⟩

omit keeps in
theorem Criterion.leaf_type_iff {criterion : TypeCriterion}
    (foldable : (Criterion.type criterion).IsFoldable) {row : Row} (member : row ∈ rows) :
    (Reading.ofRecords scope patterns (rows.map .ofRow)).leaf none (.type criterion) row.uri ↔
      (criterion.isInclusive = true ↔ row.vitaltype ∈ criterion.types) := by
  obtain ⟨normal, settled⟩ := foldable
  obtain ⟨condition, compiled, selects⟩ :=
    selects_type patterns scope consistent normal member
  rw [(Reading.describes_ofRecords scope patterns _).leaf compiled, selects,
    TypeCriterion.compared_of_settled normal settled]

omit keeps in
/-- A container that is read as one type criterion means what its criteria mean one by one. -/
theorem Fold.matches_typesWanted {connective : Connective} {elements : List Element}
    {criterion : TypeCriterion} (read : typesWanted true ⟨connective, elements⟩ = some criterion)
    (foldable : Element.EveryAll Criterion.IsFoldable elements) {row : Row} (member : row ∈ rows) :
    (Reading.ofRecords scope patterns (rows.map .ofRow)).leaf none (.type criterion) row.uri ↔
      Container.Matches (.ofRecords scope patterns (rows.map .ofRow)) false
        ⟨connective, elements⟩ row.uri := by
  obtain ⟨-, named, criteria, same, shape⟩ := typesWanted_eq_some read
  have leaves : elements = (criteria.map .type).map .leaf := by rw [same, List.map_map]; rfl
  subst leaves
  rw [Element.everyAll_leaves, List.forall_mem_map] at foldable
  have current : ∀ type ∈ criteria.flatMap (·.types), versionless type = type := by
    intro type listed
    obtain ⟨part, present, listed⟩ := List.mem_flatMap.1 listed
    exact (foldable part present).2.2 type listed
  have meaning (part : TypeCriterion) (present : part ∈ criteria) :=
    Criterion.leaf_type_iff scope patterns consistent
      (foldable part present) member
  rcases shape with ⟨rfl, equal, rfl⟩ | ⟨rfl, different, rfl⟩
  · have whole : (Criterion.type (.oneOf (criteria.flatMap (·.types)))).IsFoldable :=
      ⟨⟨rfl, rfl, named⟩, by simp [TypeCriterion.oneOf], current⟩
    rw [Criterion.leaf_type_iff scope patterns consistent whole member]
    simp only [Container.Matches, Container.Joins, Element.matchesSome_leaves, List.mem_map]
    have inclusive (part : TypeCriterion) (present : part ∈ criteria) :
        part.isInclusive = true := by simp [TypeCriterion.isInclusive, equal part present]
    constructor
    · intro admitted
      obtain ⟨part, present, listed⟩ := List.mem_flatMap.1 (admitted.1 rfl)
      exact ⟨.type part, ⟨part, present, rfl⟩,
        (meaning part present).2 (iff_of_true (inclusive part present) listed)⟩
    · intro carried
      obtain ⟨_, ⟨part, present, rfl⟩, matching⟩ := carried
      have listed := ((meaning part present).1 matching).1 (inclusive part present)
      exact iff_of_true rfl (List.mem_flatMap.2 ⟨part, present, listed⟩)
  · have whole : (Criterion.type (.noneOf (criteria.flatMap (·.types)))).IsFoldable :=
      ⟨⟨rfl, rfl, named⟩, by simp [TypeCriterion.noneOf], current⟩
    rw [Criterion.leaf_type_iff scope patterns consistent whole member]
    have excludes : ¬ (TypeCriterion.noneOf (criteria.flatMap (·.types))).isInclusive = true := by
      simp [TypeCriterion.isInclusive, TypeCriterion.noneOf]
    have exclusive (part : TypeCriterion) (present : part ∈ criteria) :
        ¬ part.isInclusive = true := by
      simp [TypeCriterion.isInclusive, different part present (foldable part present).1.affirmed]
    rw [Container.matches_leaves, List.forall_mem_map]
    constructor
    · intro excluded part present
      apply (meaning part present).2
      apply iff_of_false (exclusive part present)
      intro listed
      exact excludes (excluded.2 (List.mem_flatMap.2 ⟨part, present, listed⟩))
    · intro every
      apply iff_of_false excludes
      intro among
      obtain ⟨part, present, listed⟩ := List.mem_flatMap.1 among
      exact exclusive part present (((meaning part present).1 (every part present)).2 listed)

/-- Folding a container makes no difference if folding its elements makes none. -/
theorem Container.matches_folded_of (connective : Connective) {elements : List Element}
    (foldable : Element.EveryAll Criterion.IsFoldable elements) {row : Row} (member : row ∈ rows)
    (every : Element.MatchesAll (.ofRecords scope patterns (rows.map .ofRow)) true none row.uri 0
        elements ↔
      Element.MatchesAll (.ofRecords scope patterns (rows.map .ofRow)) false none row.uri 0
        elements)
    (some : Element.MatchesSome (.ofRecords scope patterns (rows.map .ofRow)) true row.uri
        elements ↔
      Element.MatchesSome (.ofRecords scope patterns (rows.map .ofRow)) false row.uri elements) :
    Container.Matches (.ofRecords scope patterns (rows.map .ofRow)) true ⟨connective, elements⟩
        row.uri ↔
      Container.Matches (.ofRecords scope patterns (rows.map .ofRow)) false
        ⟨connective, elements⟩ row.uri := by
  cases connective with
  | or => exact some
  | and =>
    cases used : Fold.used true ⟨.and, elements⟩ with
    | none => simp [Container.Matches, Container.Joins, used, every]
    | some fold =>
      obtain ⟨-, -, criteria, rfl, merges⟩ := Fold.merges_of_used used
      rw [merges.matches_iff scope patterns keeps consistent (Element.everyAll_leaves.1 foldable)
        used member]
      exact Container.matches_leaves.symm

set_option linter.unusedSectionVars false in
mutual

theorem Element.matches_folded (element : Element) (foldable : element.Every Criterion.IsFoldable)
    {row : Row} (member : row ∈ rows) :
    element.Matches (.ofRecords scope patterns (rows.map .ofRow)) true none row.uri ↔
      element.Matches (.ofRecords scope patterns (rows.map .ofRow)) false none row.uri := by
  match element with
  | .leaf criterion => rfl
  | .nested connective elements =>
    have folded := Container.matches_folded_of scope patterns keeps consistent connective foldable
      member (Element.matchesAll_folded elements foldable 0 member)
      (Element.matchesSome_folded elements foldable member)
    rw [Element.matches_nested, Element.matches_nested]
    cases read : Fold.typesWanted true ⟨connective, elements⟩ with
    | none => exact folded
    | some criterion =>
      exact Fold.matches_typesWanted scope patterns consistent read foldable member

theorem Element.matchesAll_folded (elements : List Element)
    (foldable : Element.EveryAll Criterion.IsFoldable elements) (place : Nat) {row : Row}
    (member : row ∈ rows) :
    Element.MatchesAll (.ofRecords scope patterns (rows.map .ofRow)) true none row.uri place
        elements ↔
      Element.MatchesAll (.ofRecords scope patterns (rows.map .ofRow)) false none row.uri place
        elements := by
  match elements with
  | [] => rfl
  | element :: rest =>
    have here := Element.matches_folded element foldable.1 member
    have others := Element.matchesAll_folded rest foldable.2 (place + 1) member
    simp only [Element.MatchesAll, here, others]

theorem Element.matchesSome_folded (elements : List Element)
    (foldable : Element.EveryAll Criterion.IsFoldable elements) {row : Row} (member : row ∈ rows) :
    Element.MatchesSome (.ofRecords scope patterns (rows.map .ofRow)) true row.uri elements ↔
      Element.MatchesSome (.ofRecords scope patterns (rows.map .ofRow)) false row.uri
        elements := by
  match elements with
  | [] => rfl
  | element :: rest =>
    have here := Element.matches_folded element foldable.1 member
    have others := Element.matchesSome_folded rest foldable.2 member
    simp only [Element.MatchesSome, here, others]

end

/-- On a consistent table a container means the same with and without folds. -/
theorem Container.matches_folded {container : Container}
    (foldable : container.Every Criterion.IsFoldable) {row : Row} (member : row ∈ rows) :
    container.Matches (.ofRecords scope patterns (rows.map .ofRow)) true row.uri ↔
      container.Matches (.ofRecords scope patterns (rows.map .ofRow)) false row.uri :=
  Container.matches_folded_of scope patterns keeps consistent container.connective foldable member
    (Element.matchesAll_folded scope patterns keeps consistent container.elements foldable 0 member)
    (Element.matchesSome_folded scope patterns keeps consistent container.elements foldable member)

end Consistent

/-- A consistent table can be relied on with folds as it can without. -/
theorem SegmentScope.trusts_of_consistent {scope : SegmentScope} {patterns : Patterns}
    {rows : List Row} (keeps : scope.registry.KeepsCore) (consistent : Row.Consistent rows) :
    scope.Trusts (.ofRecords scope.toLeafScope patterns (rows.map .ofRow)) patterns
      (rows.map .ofRow) (Element.EveryAll Criterion.IsFoldable) := by
  cases folding : scope.folding with
  | false => exact trusts_of_unfolded folding
  | true =>
    intro probing elements foldable uri known matching
    obtain ⟨record, listed, rfl⟩ := known
    obtain ⟨row, member, rfl⟩ := List.mem_map.1 listed
    have unfolded : SegmentScope.Trusts { scope with folding := false }
        (.ofRecords scope.toLeafScope patterns (rows.map .ofRow)) patterns (rows.map .ofRow)
        (Element.EveryAll Criterion.IsFoldable) := trusts_of_unfolded rfl
    refine unfolded probing elements foldable row.uri ⟨_, listed, rfl⟩ ?_
    rw [folding] at matching
    have foldable : Container.Every Criterion.IsFoldable ⟨.and, elements⟩ := foldable
    exact (Container.matches_folded _ _ keeps consistent foldable member).1 matching

/-- A search of a consistent table finds what criteria mean one by one. -/
theorem SegmentScope.finds_consistent (scope : SegmentScope) {database : Database}
    {rows : List Row} {criteria : Container} {found : UriSet}
    (present : database.recordsOf scope.table = .ok (rows.map .ofRow))
    (consistent : Row.Consistent rows) (keeps : scope.registry.KeepsCore)
    (foldable : criteria.Every Criterion.IsFoldable) (mode : ExecutionMode)
    (ran : (scope.search mode criteria).run database = .ok found) :
    Finds (.ofRecords scope.toLeafScope database.patterns (rows.map .ofRow)) found
      (criteria.Matches (.ofRecords scope.toLeafScope database.patterns (rows.map .ofRow))
        false) := by
  have describes :=
    Reading.describes_ofRecords scope.toLeafScope database.patterns (rows.map .ofRow)
  have finds := finds_search present describes (trusts_of_consistent keeps consistent)
    (Container.eachAnd_of_every foldable) mode ran
  apply finds.congr
  intro uri known
  obtain ⟨record, listed, rfl⟩ := known
  obtain ⟨row, member, rfl⟩ := List.mem_map.1 listed
  cases scope.folding with
  | false => rfl
  | true => exact Container.matches_folded _ _ keeps consistent foldable member

/-- Folding does not change what a search of a consistent table finds. -/
theorem SegmentScope.folding_agrees (scope : SegmentScope) (mode : ExecutionMode)
    (database : Database) (rows : List Row) (raw criteria : Container) (folded unfolded : UriSet)
    (present : database.recordsOf scope.table = .ok (rows.map .ofRow))
    (consistent : Row.Consistent rows) (keeps : scope.registry.KeepsCore)
    (normalized : raw.normalize scope.registry = .ok criteria)
    (settled : criteria.Every Criterion.IsSettled)
    (on : ({ scope with folding := true }.search mode criteria).run database = .ok folded)
    (off : ({ scope with folding := false }.search mode criteria).run database = .ok unfolded) :
    folded = unfolded := by
  have foldable : criteria.Every Criterion.IsFoldable :=
    Element.EveryAll.and criteria.elements (Container.normal_of_normalize normalized) settled
  have finds (folding : Bool) {found : UriSet}
      (ran : ({ scope with folding := folding }.search mode criteria).run database = .ok found) :
      Finds (.ofRecords scope.toLeafScope database.patterns (rows.map .ofRow)) found
        (criteria.Matches (.ofRecords scope.toLeafScope database.patterns (rows.map .ofRow))
          false) :=
    finds_consistent { scope with folding := folding } present consistent keeps foldable mode ran
  exact (finds true on).unique (finds false off) fun _ _ => Iff.rfl

/-- The recent nodes, by their class and their timestamp. -/
theorem SegmentScope.folding_agrees_recent :
    let scope : SegmentScope := ⟨⟨.core, .sqlite⟩, "notes", 0, true, false⟩
    let row (uri name vitaltype : String) (tstamp : Option Int64) (value : Value) : Row :=
      ⟨uri, name, vitaltype, false, tstamp, none, value, false, none⟩
    let rows : List Row :=
      [row "urn:a" Vocabulary.vitaltype Vocabulary.nodeClass (some 7) (.uri Vocabulary.nodeClass),
        row "urn:a" Vocabulary.hasTimestamp Vocabulary.nodeClass (some 7) (.long 7),
        row "urn:b" Vocabulary.vitaltype Vocabulary.messageClass none
          (.uri Vocabulary.messageClass)]
    let database := Database.ofTable "notes" (rows.map .ofRow)
    let criteria : Container :=
      ⟨.and, [.leaf (.type ⟨[Vocabulary.nodeClass], .eq, false, false⟩),
        .leaf (.property
          ⟨Vocabulary.hasTimestamp, .ge, some (.single (.long 5)), false, false, []⟩)]⟩
    ∃ folded unfolded, ({ scope with folding := true }.search .setAlgebra criteria).run database =
        .ok folded ∧
      ({ scope with folding := false }.search .setAlgebra criteria).run database = .ok unfolded ∧
      folded = unfolded ∧ folded = ["urn:a"] := by
  intro scope row rows database criteria
  have consistent : Row.Consistent rows :=
    ⟨by decide, by decide, by decide, by decide, by decide, by decide⟩
  have settled : criteria.Every Criterion.IsSettled := by
    refine ⟨⟨fun _ => ⟨_, rfl⟩, by decide⟩, ⟨fun _ => rfl, fun same => ?_⟩, trivial⟩
    exact absurd same (by decide)
  have on : ({ scope with folding := true }.search .setAlgebra criteria).run database =
      .ok ["urn:a"] := eq_ok_of_toOption (by decide +kernel)
  have off : ({ scope with folding := false }.search .setAlgebra criteria).run database =
      .ok ["urn:a"] := eq_ok_of_toOption (by decide +kernel)
  refine ⟨_, _, on, off, ?_, rfl⟩
  exact folding_agrees scope .setAlgebra database rows criteria criteria _ _
    (Database.recordsOf_ofTable _ _) consistent ⟨rfl, rfl⟩ (by rfl) settled on off

end GraphSegments
