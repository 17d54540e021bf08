import GraphSegments.Proofs.Search.Gathering
import GraphSegments.Proofs.Values.Representatives

/-!
How the different values of a property are merged from several segments. Each segment gives the
values of its own matches, whatever the others give; the answer is the set of all of them, inserted
segment by segment.
-/

namespace GraphSegments
open Results Dialogue

/-- A query for different values is not one for a number as well. -/
theorem Query.aggregation_eq_none {query : Query} {spec : DistinctSpec}
    (asked : query.distinct = some spec) (valid : query.validate = .ok ()) :
    query.aggregation = none := by
  cases given : query.aggregation with
  | none => rfl
  | some aggregation =>
    rw [validate, given, asked] at valid
    split at valid
    next => cases valid
    next =>
      dsimp only at valid
      split at valid <;> cases valid

namespace SearchScope

/-! What is asked for of a set of values. -/

section DistinctValues

variable (spec : DistinctSpec) {set other : List Value}

theorem distinctValues_subset : distinctValues spec set ⊆ set := by
  have ordered : (if spec.sort = some .descending then set.reverse else set) ⊆ set := by
    split
    next => exact (List.reverse_perm set).subset
    next => exact List.Subset.refl set
  unfold distinctValues
  dsimp only
  split
  next => exact List.Subset.trans (List.take_subset 1 _) ordered
  next =>
    split
    next =>
      intro value last
      exact ordered (List.mem_of_getLast? (Option.mem_toList.1 last))
    next => exact ordered

/-- Of sets that are alike, the same is asked for. -/
theorem alike_distinctValues (alike : Value.Alike set other) :
    Value.Alike (distinctValues spec set) (distinctValues spec other) := by
  have ordered : Value.Alike (if spec.sort = some .descending then set.reverse else set)
      (if spec.sort = some .descending then other.reverse else other) := by
    split
    next => exact List.forall₂_reverse_iff.2 alike
    next => exact alike
  unfold distinctValues
  dsimp only
  split
  next => exact List.forall₂_take 1 ordered
  next =>
    split
    next => exact ordered.last
    next => exact ordered

end DistinctValues

variable (scope : SearchScope) (database : Database)

/-- The values that the matches of a segment hold of a property. -/
def valuesIn (criteria : Container) (name : String) (segment : Segment) :
    Except Error (List Value) := do
  let matched ← scope.found database criteria segment
  if matched.isEmpty then return []
  else
    let values ← (Loading.propertyValues (TableName.ofUri scope.settings.tablesStart segment.uri)
      name matched).run database
    return values.map (·.2)

/-- The values that the matches of a query hold of a property, segment by segment. -/
def valuesOf (query : Query) (property : String) : Except Error (List (List Value)) := do
  let criteria ← query.criteria.normalize scope.registry
  let _ ← SortRule.ofKeys scope.registry query.sort
  query.segments.mapM (scope.valuesIn database criteria (versionless property))

/-- What is answered where a set of values was gathered. -/
def distinctAnswer (query : Query) (spec : DistinctSpec) (set : List Value) : ResultList :=
  ⟨[], set.length, query.offset, query.effectiveLimit, some (distinctValues spec set), none, none⟩

variable {scope database} {query : Query} {spec : DistinctSpec} (asked : query.distinct = some spec)
include asked

/-- The values of a segment are inserted after those of the segments before it. -/
theorem run_searchAll_of_distinct (plain : query.aggregation = none) (criteria : Container)
    (rules : List SortRule) (tally : Tally) (parts : List (Segment × Nat)) :
    ((scope.searchAll query criteria rules tally parts).run database).map Tally.distinct =
      ((parts.map (·.1)).mapM
        (scope.valuesIn database criteria (versionless spec.property))).map fun values =>
          values.flatten.foldl (fun set value => value.insertOrdered set) tally.distinct := by
  induction parts generalizing tally with
  | nil => rfl
  | cons part rest ih =>
    rw [searchAll, run_bind, run_search_segment, List.map_cons, List.mapM_cons, valuesIn]
    cases scope.found database criteria part.1 with
    | error error => rfl
    | ok matched =>
      rw [ok_bind, ok_bind]
      dsimp only
      by_cases empty : matched.isEmpty = true
      · rw [if_pos empty, if_pos empty, run_bind, run_pure, ok_bind, ih]
        cases (rest.map (·.1)).mapM
          (scope.valuesIn database criteria (versionless spec.property)) <;> rfl
      · rw [if_neg empty, if_neg empty, run_bind, gather, plain, asked]
        dsimp only
        rw [run_bind]
        simp only [SearchScope.segment]
        cases (Loading.propertyValues (TableName.ofUri scope.settings.tablesStart part.1.uri)
            (versionless spec.property) matched).run database with
        | error error => rfl
        | ok found =>
          rw [ok_bind, run_pure, ok_bind, ih]
          cases (rest.map (·.1)).mapM
              (scope.valuesIn database criteria (versionless spec.property)) with
          | error error => rfl
          | ok values =>
            rw [ok_bind]
            simp [Except.map, List.foldl_append, List.foldl_map]

theorem run_conclude_of_distinct (plain : query.aggregation = none) (tally : Tally) :
    (scope.conclude query tally).run database =
      .ok (distinctAnswer query spec tally.distinct) := by
  rw [conclude, plain, asked]
  rfl

/-- A query for different values is answered with what is asked for of the set of the values that
its segments give, if it makes sense and each of them gives its own. -/
theorem run_answer_of_distinct :
    (scope.answer query).run database = query.validate >>= fun _ =>
      (scope.valuesOf database query spec.property).map fun values =>
        distinctAnswer query spec (Value.collected values.flatten) := by
  rw [answer, run_bind, run_ofExcept]
  cases valid : query.validate with
  | error error => rfl
  | ok _ =>
    have plain := Query.aggregation_eq_none asked valid
    rw [ok_bind, ok_bind, run_bind, run_ofExcept, valuesOf]
    cases query.criteria.normalize scope.registry with
    | error error => rfl
    | ok criteria =>
      rw [ok_bind, ok_bind, run_bind, run_ofExcept]
      cases SortRule.ofKeys scope.registry query.sort with
      | error error => rfl
      | ok rules =>
        simp only [ok_bind, run_bind, run_conclude_of_distinct asked plain]
        rw [bind_ok_eq_map (run_searchAll_of_distinct asked plain criteria rules _ _)
          (distinctAnswer query spec), List.zipIdx_map_fst]
        cases query.segments.mapM
            (scope.valuesIn database criteria (versionless spec.property)) <;> rfl

omit asked

theorem valuesOf_eq_ok {property : String} {values : List (List Value)} :
    scope.valuesOf database query property = .ok values ↔
      ∃ criteria, query.criteria.normalize scope.registry = .ok criteria ∧
      ∃ rules, SortRule.ofKeys scope.registry query.sort = .ok rules ∧
        query.segments.mapM (scope.valuesIn database criteria (versionless property)) =
          .ok values := by
  simp only [valuesOf, bind_eq_ok]

/-- Segments in another order give the same values in another order. -/
theorem exists_valuesOf_of_perm {segments : List Segment} (perm : segments.Perm query.segments)
    {property : String} {values : List (List Value)}
    (found : scope.valuesOf database query property = .ok values) :
    ∃ others, scope.valuesOf database { query with segments := segments } property = .ok others ∧
      others.Perm values := by
  obtain ⟨criteria, normalized, rules, sorted, each⟩ := valuesOf_eq_ok.1 found
  obtain ⟨others, moved⟩ : ∃ others, segments.mapM
      (scope.valuesIn database criteria (versionless property)) = .ok others := by
    apply exists_mapM
    intro segment listed
    obtain ⟨own, -, gives⟩ := exists_of_mapM each (perm.mem_iff.1 listed)
    exact ⟨own, gives⟩
  refine ⟨others, valuesOf_eq_ok.2 ⟨criteria, normalized, rules, sorted, moved⟩, ?_⟩
  rw [eq_filterMap_of_mapM each, eq_filterMap_of_mapM moved]
  exact perm.filterMap _

/-- Each segment gives what it gives on its own. -/
theorem exists_valuesOf_alone {property : String} {values : List (List Value)}
    (found : scope.valuesOf database query property = .ok values) :
    (∀ segment ∈ query.segments, ∃ own ∈ values,
      scope.valuesOf database { query with segments := [segment] } property = .ok [own]) ∧
    ∀ own ∈ values, ∃ segment ∈ query.segments,
      scope.valuesOf database { query with segments := [segment] } property = .ok [own] := by
  obtain ⟨criteria, normalized, rules, sorted, each⟩ := valuesOf_eq_ok.1 found
  have alone {segment : Segment} {own : List Value}
      (gives : scope.valuesIn database criteria (versionless property) segment = .ok own) :
      scope.valuesOf database { query with segments := [segment] } property = .ok [own] :=
    valuesOf_eq_ok.2 ⟨criteria, normalized, rules, sorted,
      mapM_eq_ok.2 (congrArg (fun one => [one]) gives)⟩
  constructor
  · intro segment listed
    obtain ⟨own, member, gives⟩ := exists_of_mapM each listed
    exact ⟨own, member, alone gives⟩
  · intro own member
    obtain ⟨segment, listed, gives⟩ := exists_of_mem_mapM each member
    exact ⟨segment, listed, alone gives⟩

/-- The values of the first segment come first. -/
theorem exists_eq_cons_of_valuesOf {segment : Segment} {rest : List Segment} {property : String}
    {own : List Value} {values : List (List Value)}
    (alone : scope.valuesOf database { query with segments := [segment] } property = .ok [own])
    (found : scope.valuesOf database { query with segments := segment :: rest } property =
      .ok values) : ∃ others, values = own :: others := by
  obtain ⟨criteria, normalized, _, _, only⟩ := valuesOf_eq_ok.1 alone
  obtain ⟨_, again, _, _, each⟩ := valuesOf_eq_ok.1 found
  obtain rfl := Except.ok.inj (normalized.symm.trans again)
  have same := mapM_eq_ok.1 only
  have all := mapM_eq_ok.1 each
  cases values with
  | nil => cases all
  | cons first others =>
    obtain ⟨here, -⟩ := List.cons.inj same
    obtain ⟨there, -⟩ := List.cons.inj all
    obtain rfl := Except.ok.inj (here.symm.trans there)
    exact ⟨others, rfl⟩

end SearchScope

end GraphSegments
