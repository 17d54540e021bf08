import GraphSegments.Proofs.Search.Listing
import GraphSegments.Proofs.Values.Exactness

/-!
What queries gather from their matches. A query for the different values of a property, and one that
counts them, take the values of all matches, and go by the set of them; a query for objects sorts
the matches by their values.
-/

namespace GraphSegments
open Results Dialogue

/-- The values that a match holds of a property. -/
def Match.valuesOf (found : Match) (name : String) : List Value :=
  Record.valuesOf found.records name found.uri

theorem Match.flatMap_ofUris (records : List Record) (segment : Nat) (uris : List String)
    (name : String) :
    (ofUris records segment uris).flatMap (·.valuesOf name) =
      uris.flatMap (Record.valuesOf records name) := by
  have all : uris.zipIdx.map Prod.fst = uris := List.zipIdx_map_fst 0 uris
  conv_rhs => rw [← all]
  rw [ofUris, List.flatMap_map, List.flatMap_map]
  rfl

namespace SortRule

/-- The values of a match of which a rule goes by the last. -/
def valuesOf (rule : SortRule) (found : Match) : List Value :=
  match rule.mode with
  | .timestamp => Record.stampsOf found.records found.uri
  | .property name => found.valuesOf name
  | .indexOrder | .uri => []

/-- The values of two matches stand in the order of their contents, reversed where the rule asks for
it. -/
def Orders (rule : SortRule) (a b : Match) : Prop :=
  ∀ x ∈ (rule.valuesOf a).getLast?, ∀ y ∈ (rule.valuesOf b).getLast?,
    if rule.reverse then (y.natural x).isLE else (x.natural y).isLE

theorem ascending_of_values (rule : SortRule) {a b : Match} {x y : Value}
    (first : (rule.valuesOf a).getLast? = some x) (second : (rule.valuesOf b).getLast? = some y) :
    rule.ascending a b = x.order y := by
  unfold valuesOf at first second
  unfold ascending
  cases mode : rule.mode with
  | indexOrder | uri =>
    simp only [mode, List.getLast?_nil, reduceCtorEq] at first
  | timestamp =>
    simp only [mode] at first second
    exact congrArg₂ compare first second
  | property name =>
    simp only [mode] at first second
    exact congrArg₂ compare first second

/-- Matches in the order of a rule stand in the order of the contents of their values, where these
are of one exact kind and not conflated. -/
theorem orders_of_isLE {rule : SortRule} {found : List Match} {kind : ValueKind}
    (exact : kind.isExact = true)
    (kinds : ∀ value ∈ found.flatMap rule.valuesOf, value.kind = kind)
    (distinct : Value.Distinct (found.flatMap rule.valuesOf)) {a b : Match} (first : a ∈ found)
    (second : b ∈ found) (below : (rule.order a b).isLE) : rule.Orders a b := by
  intro x last y later
  have here : x ∈ found.flatMap rule.valuesOf :=
    List.mem_flatMap.2 ⟨a, first, List.mem_of_getLast? last⟩
  have there : y ∈ found.flatMap rule.valuesOf :=
    List.mem_flatMap.2 ⟨b, second, List.mem_of_getLast? later⟩
  have natural {v w : Value} (left : v ∈ found.flatMap rule.valuesOf)
      (right : w ∈ found.flatMap rule.valuesOf) : v.order w = v.natural w :=
    (Value.order_eq_natural_iff (by rwa [kinds v left])
      ((kinds v left).trans (kinds w right).symm)).2 (distinct v left w right)
  unfold order at below
  split at below
  next reversed =>
    rw [if_pos reversed, ← natural there here, ← rule.ascending_of_values later last]
    exact below
  next plain =>
    rw [if_neg plain, ← natural here there, ← rule.ascending_of_values last later]
    exact below

end SortRule

/-- Sets of the same values, in whatever order and number they are given. -/
theorem Value.IsSetOf.congr {set values others : List Value} (isSet : Value.IsSetOf set values)
    (same : ∀ value, value ∈ values ↔ value ∈ others) : Value.IsSetOf set others where
  ascending := isSet.ascending
  sound value kept := (same value).1 (isSet.sound value kept)
  complete value listed := isSet.complete value ((same value).2 listed)

namespace Accumulator

variable {aggregation : Aggregation} (different : aggregation.distinct = true)

theorem count_foldl_add (values : List Value) (accumulator : Accumulator) :
    (values.foldl add accumulator).count = accumulator.count + values.length := by
  induction values generalizing accumulator with
  | nil => rfl
  | cons value rest ih =>
    have one : (accumulator.add value).count = accumulator.count + 1 := by
      unfold add
      dsimp only
      split <;> rfl
    rw [List.foldl_cons, ih, one, List.length_cons]
    omega

include different

/-- Where only different values count, the set of them is kept, and nothing else. -/
theorem foldl_take (values : List Value) (accumulator : Accumulator) :
    values.foldl (take aggregation) accumulator =
      { accumulator with
        distinct := values.foldl (fun set value => value.insertOrdered set)
          accumulator.distinct } := by
  induction values generalizing accumulator with
  | nil => rfl
  | cons value rest ih =>
    rw [List.foldl_cons, ih, take, if_pos different]
    rfl

/-- The different values are counted once all are known. -/
theorem finish_count (counts : aggregation.kind = .count) {accumulator : Accumulator}
    (fresh : accumulator.count = 0) :
    accumulator.finish aggregation = ⟨.count, Double.ofInt accumulator.distinct.length⟩ := by
  have counted := count_foldl_add accumulator.distinct accumulator
  rw [fresh, Nat.zero_add] at counted
  rw [finish, if_pos different, counts, counted]

end Accumulator

namespace SearchScope

/-- All values of a set are given unless only the first or the last one is asked for. -/
theorem perm_distinctValues {spec : DistinctSpec} (first : spec.first = false)
    (last : spec.last = false) (set : List Value) : (distinctValues spec set).Perm set := by
  simp only [distinctValues, first, last, Bool.false_eq_true, if_false]
  split
  next => exact List.reverse_perm set
  next => exact .refl set

variable (scope : SearchScope) (database : Database)

/-- All matches of a query, segment by segment. -/
def allMatches (query : Query) : Except Error (List Match) := do
  let criteria ← query.criteria.normalize scope.registry
  let found ← query.segments.zipIdx.mapM (scope.matched database criteria)
  return found.flatten

variable {scope database}

/-- Whatever is gathered, all segments have been searched. -/
theorem exists_matched_of_run_searchAll {query : Query} {criteria : Container}
    {rules : List SortRule} {tally final : Tally} {parts : List (Segment × Nat)}
    (ran : (scope.searchAll query criteria rules tally parts).run database = .ok final) :
    ∃ found, parts.mapM (scope.matched database criteria) = .ok found := by
  induction parts generalizing tally with
  | nil => exact ⟨[], rfl⟩
  | cons part rest ih =>
    rw [searchAll, run_bind, run_search_segment] at ran
    obtain ⟨uris, searched, ran⟩ := bind_eq_ok.1 ran
    obtain ⟨others, all⟩ : ∃ found, rest.mapM (scope.matched database criteria) = .ok found := by
      dsimp only at ran
      split at ran
      all_goals
        rw [run_bind] at ran
        obtain ⟨gathered, -, ran⟩ := bind_eq_ok.1 ran
        exact ih ran
    exact ⟨_, by rw [List.mapM_cons, matched, searched, all]; rfl⟩

/-- Where the values of a property are taken from the matches of each segment, they are taken from
all matches. -/
theorem read_of_run_searchAll {σ : Type} (read : Tally → σ) (step : σ → Value → σ) (name : String)
    {query : Query} {criteria : Container} {rules : List SortRule} {tally final : Tally}
    {parts : List (Segment × Nat)}
    (counting : ∀ tally total, read { tally with total := total } = read tally)
    (gathers : ∀ table place uris tally gathered,
      (gather query rules table place uris tally).run database = .ok gathered →
      ∃ found, (Loading.propertyValues table name uris).run database = .ok found ∧
        read gathered = (found.map (·.2)).foldl step (read tally))
    (ran : (scope.searchAll query criteria rules tally parts).run database = .ok final) :
    ∃ (found : List (List Match)) (values : List Value),
      parts.mapM (scope.matched database criteria) = .ok found ∧
      (∀ value, value ∈ values ↔ value ∈ found.flatten.flatMap (·.valuesOf name)) ∧
      read final = values.foldl step (read tally) := by
  induction parts generalizing tally with
  | nil =>
    obtain rfl := Except.ok.inj ran
    exact ⟨[], [], rfl, fun _ => Iff.rfl, rfl⟩
  | cons part rest ih =>
    rw [searchAll, run_bind, run_search_segment] at ran
    obtain ⟨matched, searched, ran⟩ := bind_eq_ok.1 ran
    have here : scope.matched database criteria part =
        .ok (Match.ofUris (scope.held database part.1) part.2 matched) := by
      rw [SearchScope.matched, searched]
      rfl
    -- The values of the first segment, and what is left to do after them.
    obtain ⟨own, gathered, members, taken, ran⟩ : ∃ (own : List Value) (gathered : Tally),
        (∀ value, value ∈ own ↔
          value ∈ matched.flatMap (Record.valuesOf (scope.held database part.1) name)) ∧
        read gathered = own.foldl step (read tally) ∧
        (scope.searchAll query criteria rules gathered rest).run database = .ok final := by
      dsimp only at ran
      by_cases empty : matched.isEmpty = true
      · rw [if_pos empty, run_bind, run_pure, ok_bind] at ran
        obtain rfl := List.isEmpty_iff.1 empty
        exact ⟨[], _, fun _ => Iff.rfl, counting tally _, ran⟩
      · rw [if_neg empty, run_bind] at ran
        obtain ⟨gathered, gather, ran⟩ := bind_eq_ok.1 ran
        obtain ⟨found, fetched, taken⟩ := gathers _ _ _ _ _ gather
        obtain ⟨first, listed⟩ := List.exists_mem_of_ne_nil matched (by simpa using empty)
        obtain ⟨record, member, -⟩ := (isWithin_of_found searched).known first listed
        exact ⟨_, gathered, Loading.mem_of_run_propertyValues (recordsOf_of_held member) fetched,
          by rw [taken, counting], ran⟩
    obtain ⟨founds, others, all, same, last⟩ := ih ran
    refine ⟨_, own ++ others, by rw [List.mapM_cons, here, ok_bind, all]; rfl, fun value => ?_, ?_⟩
    · rw [List.flatten_cons, List.flatMap_append, List.mem_append, List.mem_append, members, same,
        Match.flatMap_ofUris]
    · rw [last, taken, List.foldl_append]

section Answered

variable {query : Query} {result : ResultList}
  (ran : (scope.answer query).run database = .ok result)
include ran

/-- An answer is concluded from what was gathered. -/
theorem exists_of_run_answer :
    ∃ criteria rules tally, query.criteria.normalize scope.registry = .ok criteria ∧
      SortRule.ofKeys scope.registry query.sort = .ok rules ∧
      (scope.searchAll query criteria rules ⟨0, .empty, [],
        .empty (query.offset + query.effectiveLimit) (rules.map (·.reverse))⟩
        query.segments.zipIdx).run database = .ok tally ∧
      (scope.conclude query tally).run database = .ok result := by
  rw [answer, run_bind, run_ofExcept] at ran
  obtain ⟨⟨⟩, -, ran⟩ := bind_eq_ok.1 ran
  rw [run_bind, run_ofExcept] at ran
  obtain ⟨criteria, normalized, ran⟩ := bind_eq_ok.1 ran
  rw [run_bind, run_ofExcept] at ran
  obtain ⟨rules, sorted, ran⟩ := bind_eq_ok.1 ran
  rw [run_bind] at ran
  obtain ⟨tally, searched, ran⟩ := bind_eq_ok.1 ran
  exact ⟨criteria, rules, tally, normalized, sorted, searched, ran⟩

theorem exists_allMatches_of_answer : ∃ found, scope.allMatches database query = .ok found := by
  obtain ⟨criteria, rules, tally, normalized, -, searched, -⟩ := exists_of_run_answer ran
  obtain ⟨found, all⟩ := exists_matched_of_run_searchAll searched
  exact ⟨found.flatten, by rw [allMatches, normalized, ok_bind, all]; rfl⟩

/-- A query for the different values of a property is answered with the set of the values that its
matches hold. -/
theorem exists_distinct_of_answer {spec : DistinctSpec} (plain : query.aggregation = none)
    (asked : query.distinct = some spec) :
    ∃ found set, scope.allMatches database query = .ok found ∧
      Value.IsSetOf set (found.flatMap (·.valuesOf (versionless spec.property))) ∧
      result.distinctValues = some (distinctValues spec set) ∧ result.total = set.length := by
  obtain ⟨criteria, rules, tally, normalized, -, searched, concluded⟩ := exists_of_run_answer ran
  have gathers (table : String) (place : Nat) (uris : List String) (tally gathered : Tally)
      (gather : (gather query rules table place uris tally).run database = .ok gathered) :
      ∃ found, (Loading.propertyValues table (versionless spec.property) uris).run database =
        .ok found ∧ gathered.distinct =
          (found.map (·.2)).foldl (fun set value => value.insertOrdered set) tally.distinct := by
    rw [SearchScope.gather, plain, asked] at gather
    simp only [run_bind] at gather
    obtain ⟨found, fetched, gather⟩ := bind_eq_ok.1 gather
    obtain rfl := Except.ok.inj gather
    exact ⟨found, fetched, by rw [List.foldl_map]⟩
  obtain ⟨found, values, all, same, last⟩ :=
    read_of_run_searchAll Tally.distinct _ _ (fun _ _ => rfl) gathers searched
  rw [conclude, plain, asked] at concluded
  obtain rfl := Except.ok.inj concluded
  refine ⟨found.flatten, tally.distinct, ?_, ?_, rfl, rfl⟩
  · rw [allMatches, normalized, ok_bind, all]
    rfl
  · rw [last]
    exact (Value.isSetOf_collected values).congr same

/-- A query that counts the different values of a property is answered with the size of the set of
the values that its matches hold. -/
theorem exists_count_of_answer {aggregation : Aggregation} {property : String}
    (asked : query.aggregation = some aggregation) (named : aggregation.property = some property)
    (counts : aggregation.kind = .count) (different : aggregation.distinct = true) :
    ∃ found set, scope.allMatches database query = .ok found ∧
      Value.IsSetOf set (found.flatMap (·.valuesOf (versionless property))) ∧
      result.aggregation = some ⟨.count, Double.ofInt set.length⟩ := by
  obtain ⟨criteria, rules, tally, normalized, -, searched, concluded⟩ := exists_of_run_answer ran
  have gathers (table : String) (place : Nat) (uris : List String) (tally gathered : Tally)
      (gather : (gather query rules table place uris tally).run database = .ok gathered) :
      ∃ found, (Loading.propertyValues table (versionless property) uris).run database =
        .ok found ∧ gathered.accumulator =
          (found.map (·.2)).foldl (Accumulator.take aggregation) tally.accumulator := by
    rw [SearchScope.gather, asked] at gather
    simp only [named, run_bind] at gather
    obtain ⟨found, fetched, gather⟩ := bind_eq_ok.1 gather
    obtain rfl := Except.ok.inj gather
    exact ⟨found, fetched, by rw [List.foldl_map]⟩
  obtain ⟨found, values, all, same, last⟩ :=
    read_of_run_searchAll Tally.accumulator _ _ (fun _ _ => rfl) gathers searched
  rw [Accumulator.foldl_take different] at last
  rw [conclude, asked] at concluded
  obtain rfl := Except.ok.inj concluded
  refine ⟨found.flatten, Value.collected values, ?_, (Value.isSetOf_collected values).congr same, ?_⟩
  · rw [allMatches, normalized, ok_bind, all]
    rfl
  · exact congrArg some (last ▸ Accumulator.finish_count different counts rfl)

/-- A query for objects is answered with matches in the order of its rules. -/
theorem exists_ordered_of_answer (plain : query.IsPlain) :
    ∃ (rules : List SortRule) (found ordered : List Match),
      SortRule.ofKeys scope.registry query.sort = .ok rules ∧
      scope.allMatches database query = .ok found ∧ ordered.Perm found ∧
      (ordered.Pairwise fun a b => (Match.order rules a b).isLE) ∧
      result.uris.Sublist (ordered.map (·.uri)) := by
  obtain ⟨-, criteria, normalized, rules, sorted, hits, ranked, founds, -, rfl⟩ :=
    (run_answer_eq_ok plain).1 ran
  obtain ⟨found, all, ordered, perm, inOrder, -, page⟩ := exists_ordered ranked
  refine ⟨rules, found.flatten, ordered, sorted, ?_, perm, inOrder, ?_⟩
  · rw [allMatches, normalized, ok_bind, all]
    rfl
  · change List.Sublist ((Loading.deliver _ _).map _) _
    rw [Loading.uris_deliver, page, Match.map_uri_slice]
    exact (Lists.eraseDups_sublist _).trans (List.filter_sublist.trans
      ((List.take_sublist _ _).trans (List.drop_sublist _ _)))

end Answered

end SearchScope

end GraphSegments
