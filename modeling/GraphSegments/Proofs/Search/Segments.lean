import GraphSegments.Proofs.Search.Listing
import Mathlib.Data.List.Pairwise

/-!
Segments that hold no object in common. Each object is then listed once, and neither the listing of
a query nor whether it is answered depends on the order of its segments.
-/

namespace GraphSegments
open Results

namespace Match

/-- A match without its place. -/
def unplaced (found : Match) : Match := { found with segment := 0, position := 0 }

/-- Unless it is asked for, the place of a match does not matter. -/
theorem order_unplaced {rules : List SortRule} (free : ∀ rule ∈ rules, rule.mode ≠ .indexOrder)
    (a b : Match) : order rules a.unplaced b.unplaced = order rules a b := by
  induction rules with
  | nil => rfl
  | cons rule rest ih =>
    obtain ⟨here, later⟩ := List.forall_mem_cons.1 free
    have ascending (a b : Match) :
        rule.ascending a.unplaced b.unplaced = rule.ascending a b := by
      unfold SortRule.ascending
      cases mode : rule.mode with
      | indexOrder => exact absurd mode here
      | uri | timestamp | property name => rfl
    have first : rule.order a.unplaced b.unplaced = rule.order a b := by
      rw [SortRule.order, SortRule.order, ascending, ascending]
    change (rule.order _ _).then (order rest _ _) = (rule.order a b).then (order rest a b)
    rw [first, ih later]

end Match

theorem SortRule.mode_ne_of_ofKeys {registry : Registry} {keys : List SortKey}
    {rules : List SortRule} (sorted : ofKeys registry keys = .ok rules)
    (free : ∀ key ∈ keys, key.property ≠ Vocabulary.indexOrderPseudo) :
    ∀ rule ∈ rules, rule.mode ≠ .indexOrder := by
  intro rule listed
  obtain ⟨key, isKey, made⟩ := exists_of_mem_mapM sorted listed
  rw [ofKey, if_neg (free key isKey)] at made
  split at made
  · obtain rfl := Except.ok.inj made
    simp
  · split at made
    · cases made
    · dsimp only at made
      split at made
      · cases made
      · split at made
        · cases made
        · split at made
          all_goals
            obtain rfl := Except.ok.inj made
            simp

namespace SearchScope

variable (scope : SearchScope) (database : Database)

/-- Two segments hold no object in common. -/
def Apart (a b : Segment) : Prop :=
  ∀ x ∈ scope.held database a, ∀ y ∈ scope.held database b, x.uri ≠ y.uri

/-- The matches of a segment, wherever it stands. -/
def ownMatches (criteria : Container) (segment : Segment) : List Match :=
  ((scope.found database criteria segment).toOption.getD []).map fun uri =>
    ⟨uri, scope.held database segment, 0, 0⟩

variable {scope database} {criteria : Container}

theorem Apart.symm {a b : Segment} (apart : scope.Apart database a b) : scope.Apart database b a :=
  fun x inside y outside same => apart y outside x inside same.symm

/-- Without their places, the matches of a query are those of its segments. -/
theorem unplaced_of_matched {parts : List (Segment × Nat)} {found : List (List Match)}
    (searched : parts.mapM (scope.matched database criteria) = .ok found) :
    found.flatten.map Match.unplaced =
      (parts.map (·.1)).flatMap (scope.ownMatches database criteria) := by
  induction parts generalizing found with
  | nil =>
    obtain rfl := Except.ok.inj searched
    rfl
  | cons part rest ih =>
    rw [List.mapM_cons] at searched
    obtain ⟨first, here, searched⟩ := bind_eq_ok.1 searched
    obtain ⟨others, later, joined⟩ := bind_eq_ok.1 searched
    obtain rfl := Except.ok.inj joined
    obtain ⟨uris, ran, rfl⟩ := map_eq_ok.1 here
    have own : (Match.ofUris (scope.held database part.1) part.2 uris).map Match.unplaced =
        scope.ownMatches database criteria part.1 := by
      have all : uris.zipIdx.map Prod.fst = uris := List.zipIdx_map_fst 0 uris
      rw [ownMatches, ran, Match.ofUris, List.map_map]
      change uris.zipIdx.map _ = uris.map _
      conv_rhs => rw [← all, List.map_map]
      rfl
    rw [List.flatten_cons, List.map_append, own, ih later, List.map_cons, List.flatMap_cons]

section Apart

variable {query : Query} {found : List (List Match)}
  (apart : query.segments.Pairwise (scope.Apart database))
  (searched : query.segments.zipIdx.mapM (scope.matched database criteria) = .ok found)
include apart

theorem apart_of_ne {p q : Segment × Nat} (left : p ∈ query.segments.zipIdx)
    (right : q ∈ query.segments.zipIdx) (other : p ≠ q) : scope.Apart database p.1 q.1 := by
  have parts : query.segments.zipIdx.Pairwise fun p q => scope.Apart database p.1 q.1 := by
    rw [← List.pairwise_map, List.zipIdx_map_fst]
    exact apart
  have symmetric : Std.Symm fun p q : Segment × Nat => scope.Apart database p.1 q.1 :=
    ⟨fun _ _ => Apart.symm⟩
  exact parts.forall left right other

include searched

/-- A match is of the one segment that holds its object. -/
theorem segment_eq_iff {one : Match} (listed : one ∈ found.flatten) {part : Segment × Nat}
    (isPart : part ∈ query.segments.zipIdx) :
    one.segment = part.2 ↔ ∃ record ∈ scope.held database part.1, record.uri = one.uri := by
  obtain ⟨own, isOwn, place, records, known⟩ := exists_part_of_matched searched listed
  rw [records] at known
  constructor
  · intro here
    have same : own.1 = part.1 := by
      have first := List.mem_zipIdx_iff_getElem?.1 isOwn
      have second := List.mem_zipIdx_iff_getElem?.1 isPart
      rw [← place, here, second] at first
      exact (Option.some.inj first).symm
    exact same ▸ known
  · intro held
    by_contra elsewhere
    obtain ⟨record, member, mine⟩ := held
    obtain ⟨other, inside, same⟩ := known
    have different : own ≠ part := fun same => elsewhere (same ▸ place)
    exact apart_of_ne apart isOwn isPart different other inside record member
      (same.trans mine.symm)

/-- Each object matches once. -/
theorem nodup_uris : (found.flatten.map (·.uri)).Nodup := by
  let uris (segment : Segment) : UriSet :=
    (scope.found database criteria segment).toOption.getD []
  have within (segment : Segment) : (uris segment).IsWithin (scope.held database segment) := by
    cases searched : scope.found database criteria segment with
    | error error => simpa [uris, searched, Except.toOption] using UriSet.isWithin_nil _
    | ok found => simpa [uris, searched, Except.toOption] using isWithin_of_found searched
  have all : found.flatten.map (·.uri) = query.segments.flatMap uris := by
    calc found.flatten.map (·.uri)
      _ = (found.flatten.map Match.unplaced).map (·.uri) := by rw [List.map_map]; rfl
      _ = (query.segments.flatMap (scope.ownMatches database criteria)).map (·.uri) := by
        rw [unplaced_of_matched searched, List.zipIdx_map_fst]
      _ = query.segments.flatMap uris := by
        rw [List.map_flatMap]
        congr
        funext segment
        rw [ownMatches, List.map_map]
        exact List.map_id _
  rw [all, List.nodup_flatMap]
  refine ⟨fun segment _ => (within segment).ascending.nodup, apart.imp fun {a b} apart => ?_⟩
  intro uri left right
  obtain ⟨x, inside, rfl⟩ := (within a).known uri left
  obtain ⟨y, outside, same⟩ := (within b).known _ right
  exact apart x inside y outside same.symm

omit searched in
/-- Each object is listed once. -/
theorem nodup_of_lists {listing : List String} (lists : scope.Lists database query listing) :
    listing.Nodup := by
  obtain ⟨_, _, _, _, found, searched, ordered, all, _, rfl⟩ := lists
  exact (all.map _).nodup_iff.2 (nodup_uris apart searched)

/-- The hits that a segment has on a page are those of its objects. -/
theorem uris_of_segment (rules : List SortRule) {ordered : List Match}
    (all : ordered.Perm found.flatten) (offset limit : Nat) {part : Segment × Nat}
    (isPart : part ∈ query.segments.zipIdx) :
    ((((ordered.drop offset).take limit).map (Match.hit rules)).filter
        (·.segment == part.2)).map (·.uri) =
      (((ordered.map (·.uri)).drop offset).take limit).filter fun uri =>
        (scope.held database part.1).any (·.uri == uri) := by
  rw [← List.map_drop, ← List.map_take, List.filter_map, List.map_map, List.filter_map]
  refine congrArg (List.map _) (List.filter_congr fun one chosen => ?_)
  have listed := all.mem_iff.1 (List.mem_of_mem_drop (List.mem_of_mem_take chosen))
  have here := segment_eq_iff apart searched listed isPart
  rw [Bool.eq_iff_iff]
  simpa [Match.hit] using here

end Apart

section Permuted

variable {query : Query} (free : ∀ key ∈ query.sort, key.property ≠ Vocabulary.indexOrderPseudo)
  (apart : query.segments.Pairwise (scope.Apart database)) {segments : List Segment}
  (perm : segments.Perm query.segments)
include free apart perm

/-- There is one listing of the objects, whatever the order of the segments. -/
theorem lists_unique {listing other : List String} (lists : scope.Lists database query listing)
    (also : scope.Lists database { query with segments := segments } other) :
    other = listing := by
  obtain ⟨criteria, normalized, rules, sorted, found, searched, ordered, all, inOrder, rfl⟩ := lists
  obtain ⟨_, again, _, sortedAgain, otherFound, searchedAgain, otherOrdered, otherAll, otherInOrder,
    rfl⟩ := also
  obtain rfl := Except.ok.inj (normalized.symm.trans again)
  obtain rfl := Except.ok.inj (sorted.symm.trans sortedAgain)
  have free := SortRule.mode_ne_of_ofKeys sorted free
  have together : (otherOrdered.map Match.unplaced).Perm (ordered.map Match.unplaced) := by
    refine (otherAll.map _).trans (List.Perm.trans ?_ (all.map _).symm)
    rw [unplaced_of_matched searched, unplaced_of_matched searchedAgain, List.zipIdx_map_fst,
      List.zipIdx_map_fst]
    exact perm.flatMap_right _
  have distinct : ((ordered.map Match.unplaced).map (·.uri)).Nodup := by
    rw [List.map_map]
    exact (all.map _).nodup_iff.2 (nodup_uris apart searched)
  have unplaced {ordered : List Match}
      (inOrder : ordered.Pairwise fun a b => (Match.order rules a b).isLE) :
      (ordered.map Match.unplaced).Pairwise fun a b => (Match.order rules a b).isLE :=
    List.pairwise_map.2 (inOrder.imp fun below => by rwa [Match.order_unplaced free])
  have same : otherOrdered.map Match.unplaced = ordered.map Match.unplaced := by
    refine together.eq_of_pairwise (fun a b left right below above => ?_) (unplaced otherInOrder)
      (unplaced inOrder)
    have alike := Std.OrientedCmp.isLE_antisymm below above
    exact List.inj_on_of_nodup_map distinct (together.mem_iff.1 left) right
      (Match.uri_eq_of_order alike)
  have uris (ordered : List Match) :
      ordered.map (·.uri) = (ordered.map Match.unplaced).map (·.uri) := by
    rw [List.map_map]
    rfl
  rw [uris otherOrdered, same, uris ordered]

omit free apart perm in
/-- Whether a segment has hits does not depend on its place. -/
theorem exists_hits_at {rules : List SortRule} {segment : Segment} {place : Nat} {hits : List Hit}
    (ranked : scope.hits database criteria rules (segment, place) = .ok hits) (other : Nat) :
    ∃ moved, scope.hits database criteria rules (segment, other) = .ok moved := by
  obtain ⟨found, searched, ranked⟩ := bind_eq_ok.1 ranked
  rw [SearchScope.hits, searched, ok_bind]
  dsimp only at ranked ⊢
  split at ranked
  next empty => exact ⟨[], if_pos empty⟩
  next some =>
    rw [if_neg some]
    rw [rank, Dialogue.run_bind] at ranked ⊢
    obtain ⟨columns, sorted, -⟩ := bind_eq_ok.1 ranked
    exact ⟨_, by rw [SearchScope.segment] at sorted ⊢; rw [sorted]; rfl⟩

omit free apart perm in
/-- What a segment gives depends on its own hits only. -/
theorem loaded_congr {left right : List Hit} {p q : Segment × Nat} (segment : p.1 = q.1)
    (same : (left.filter (·.segment == p.2)).map (·.uri) =
      (right.filter (·.segment == q.2)).map (·.uri)) :
    scope.loaded database left p = scope.loaded database right q := by
  rw [loaded, loaded, same, segment]

omit free apart in
/-- Whether all segments have hits does not depend on their order. -/
theorem exists_hitsAll_of_perm {rules : List SortRule} {hits : List (List Hit)}
    (ranked : query.segments.zipIdx.mapM (scope.hits database criteria rules) = .ok hits) :
    ∃ others, segments.zipIdx.mapM (scope.hits database criteria rules) = .ok others := by
  apply exists_mapM
  intro part isPart
  obtain ⟨place, listed⟩ := exists_place (perm.mem_iff.1 (List.fst_mem_of_mem_zipIdx isPart))
  obtain ⟨own, -, first⟩ := exists_of_mapM ranked listed
  exact exists_hits_at first part.2

/-- A query for objects is answered whatever the order of its segments. -/
theorem exists_answer_of_perm (plain : query.IsPlain) {result : ResultList}
    (ran : (scope.answer query).run database = .ok result) :
    ∃ permuted, (scope.answer { query with segments := segments }).run database =
      .ok permuted := by
  let moved : Query := { query with segments := segments }
  have plainToo : moved.IsPlain := ⟨plain.aggregation, plain.distinct, plain.projectionOnly⟩
  obtain ⟨valid, criteria, normalized, rules, sorted, hits, ranked, founds, loaded, -⟩ :=
    (run_answer_eq_ok plain).1 ran
  obtain ⟨others, rankedToo⟩ : ∃ others,
      moved.segments.zipIdx.mapM (scope.hits database criteria rules) = .ok others :=
    exists_hitsAll_of_perm perm ranked
  obtain ⟨found, searched, ordered, all, inOrder, -, page⟩ := exists_ordered ranked
  obtain ⟨otherFound, searchedToo, otherOrdered, allToo, inOrderToo, -, pageToo⟩ :=
    exists_ordered rankedToo
  have same : otherOrdered.map (·.uri) = ordered.map (·.uri) :=
    lists_unique free apart perm
      ⟨criteria, normalized, rules, sorted, found, searched, ordered, all, inOrder, rfl⟩
      ⟨criteria, normalized, rules, sorted, otherFound, searchedToo, otherOrdered, allToo,
        inOrderToo, rfl⟩
  have apartToo : moved.segments.Pairwise (scope.Apart database) :=
    (perm.pairwise_iff Apart.symm).2 apart
  have loads : ∀ part ∈ segments.zipIdx, ∃ objects, scope.loaded database
      (Hit.page moved rules others.flatten) part = .ok objects := by
    intro part isPart
    obtain ⟨place, listed⟩ := exists_place (perm.mem_iff.1 (List.fst_mem_of_mem_zipIdx isPart))
    obtain ⟨objects, -, load⟩ := exists_of_mapM loaded listed
    have uris := uris_of_segment apart searched rules all query.offset query.effectiveLimit listed
    have urisToo := uris_of_segment apartToo searchedToo rules allToo query.offset
      query.effectiveLimit isPart
    rw [same] at urisToo
    refine ⟨objects, load ▸ loaded_congr rfl ?_⟩
    rw [page, pageToo]
    exact urisToo.trans uris.symm
  obtain ⟨objects, loadedToo⟩ := exists_mapM loads
  exact ⟨_, (run_answer_eq_ok plainToo).2
    ⟨valid, criteria, normalized, rules, sorted, others, rankedToo, objects, loadedToo, rfl⟩⟩

end Permuted

end SearchScope

end GraphSegments
