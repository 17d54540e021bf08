import GraphSegments.Proofs.Search.Gathering
import GraphSegments.Proofs.Store.Pages

/-!
Different values in the answers of a store. Of a property whose values are of one exact kind a query
gives every value once, counts the different ones and sorts by them, unless two long numbers are
rounded to one double.
-/

namespace GraphSegments
open Results

namespace StoreScope

/-- What a search over segments that exist answers, a store answers too. -/
theorem exists_select_of_answer {scope : StoreScope} {database : Database} {query : Query}
    {α : Type} (part : ResultList → α)
    (untold : ∀ result told, part { result with stats := told } = part result) {answered : α}
    (asked : ((scope.search.answer query).run database).toOption.map part = some answered)
    (there : ∀ segment ∈ query.segments, scope.hasSegment database segment = true) :
    ∃ result, scope.select database query = .ok result ∧ part result = answered := by
  obtain ⟨answer, ran, rfl⟩ := Option.map_eq_some_iff.1 asked
  obtain ⟨told, same⟩ := select_eq there
  exact ⟨_, same.trans (congrArg _ (eq_ok_of_toOption ran)), untold answer told⟩

section Answered

variable {scope : StoreScope} {database : Database} {query : Query} {result : ResultList}
  {kind : ValueKind}

section Gathered

variable {found : List Match} (exact : kind.isExact = true)
  (answered : scope.select database query = .ok result)
  (searched : scope.search.allMatches database query = .ok found)
include exact answered searched

theorem given_of_distinct {spec : DistinctSpec} (plain : query.aggregation = none)
    (asked : query.distinct = some spec) (first : spec.first = false) (last : spec.last = false)
    (kinds : ∀ value ∈ found.flatMap (·.valuesOf (versionless spec.property)),
      value.kind = kind) :
    ∃ given, result.distinctValues = some given ∧ given.Nodup ∧
      given ⊆ found.flatMap (·.valuesOf (versionless spec.property)) ∧
      (found.flatMap (·.valuesOf (versionless spec.property)) ⊆ given ↔
        Value.Distinct (found.flatMap (·.valuesOf (versionless spec.property)))) := by
  obtain ⟨-, answer, told, ran, rfl⟩ := exists_answer_of_select answered
  obtain ⟨own, set, all, isSet, given, -⟩ := SearchScope.exists_distinct_of_answer ran plain asked
  obtain rfl := Except.ok.inj (all.symm.trans searched)
  have whole := SearchScope.perm_distinctValues first last set
  refine ⟨_, given, whole.nodup_iff.2 isSet.nodup, fun value kept =>
    isSet.sound value (whole.mem_iff.1 kept), ?_⟩
  rw [← isSet.subset_iff exact kinds]
  exact forall_congr' fun value => imp_congr_right fun _ => whole.mem_iff

theorem count_of_distinct {aggregation : Aggregation} {property : String}
    (asked : query.aggregation = some aggregation) (named : aggregation.property = some property)
    (counts : aggregation.kind = .count) (different : aggregation.distinct = true)
    (kinds : ∀ value ∈ found.flatMap (·.valuesOf (versionless property)), value.kind = kind) :
    ∃ count : Nat, result.aggregation = some ⟨.count, Double.ofInt count⟩ ∧
      (count = (found.flatMap (·.valuesOf (versionless property))).dedup.length ↔
        Value.Distinct (found.flatMap (·.valuesOf (versionless property)))) := by
  obtain ⟨-, answer, told, ran, rfl⟩ := exists_answer_of_select answered
  obtain ⟨own, set, all, isSet, counted⟩ :=
    SearchScope.exists_count_of_answer ran asked named counts different
  obtain rfl := Except.ok.inj (all.symm.trans searched)
  exact ⟨set.length, counted, isSet.length_eq_iff exact kinds⟩

theorem exists_ordered_by_contents (plain : query.IsPlain) :
    ∃ ordered : List Match, ordered.Perm found ∧ result.uris.Sublist (ordered.map (·.uri)) ∧
      ∀ rule rules, SortRule.ofKeys scope.registry query.sort = .ok (rule :: rules) →
        (∀ value ∈ found.flatMap rule.valuesOf, value.kind = kind) →
        Value.Distinct (found.flatMap rule.valuesOf) → ordered.Pairwise rule.Orders := by
  obtain ⟨-, answer, told, ran, rfl⟩ := exists_answer_of_select answered
  obtain ⟨rules, own, ordered, sorted, all, perm, inOrder, uris⟩ :=
    SearchScope.exists_ordered_of_answer ran plain
  obtain rfl := Except.ok.inj (all.symm.trans searched)
  refine ⟨ordered, perm, uris, fun rule others same kinds distinct => ?_⟩
  obtain rfl := Except.ok.inj (sorted.symm.trans same)
  refine inOrder.imp_of_mem fun first second below => ?_
  exact SortRule.orders_of_isLE exact kinds distinct (perm.mem_iff.1 first)
    (perm.mem_iff.1 second) (Ordering.isLE_left_of_isLE_then below)

end Gathered

/-- Values of one exact kind are kept apart. Their order is that of their contents, a query for the
different values of a property gives each value that its matches hold, and a query that counts them
counts each, exactly if no two long numbers are conflated; then also the matches of a sorted query
stand in the order of the contents. -/
theorem exact_values_are_apart_iff (exact : kind.isExact = true)
    (answered : scope.select database query = .ok result) :
    (∀ a b : Value, a.kind = kind → b.kind = kind →
        (a.natural b = .eq ↔ a = b) ∧ (a.order b = a.natural b ↔ ¬ a.Conflates b) ∧
          (a.Conflates b → ∃ m n : Int64, a = .long m ∧ b = .long n ∧
            2 ^ 53 < max m.toInt.natAbs n.toInt.natAbs)) ∧
      ∃ found, scope.search.allMatches database query = .ok found ∧
        (∀ spec, query.aggregation = none → query.distinct = some spec → spec.first = false →
          spec.last = false →
          let values := found.flatMap (·.valuesOf (versionless spec.property))
          (∀ value ∈ values, value.kind = kind) →
          ∃ given, result.distinctValues = some given ∧ given.Nodup ∧ given ⊆ values ∧
            (values ⊆ given ↔ Value.Distinct values)) ∧
        (∀ aggregation property, query.aggregation = some aggregation →
          aggregation.property = some property → aggregation.kind = .count →
          aggregation.distinct = true →
          let values := found.flatMap (·.valuesOf (versionless property))
          (∀ value ∈ values, value.kind = kind) →
          ∃ count : Nat, result.aggregation = some ⟨.count, Double.ofInt count⟩ ∧
            (count = values.dedup.length ↔ Value.Distinct values)) ∧
        (query.IsPlain → ∃ ordered : List Match, ordered.Perm found ∧
          result.uris.Sublist (ordered.map (·.uri)) ∧
          ∀ rule rules, SortRule.ofKeys scope.registry query.sort = .ok (rule :: rules) →
            (∀ value ∈ found.flatMap rule.valuesOf, value.kind = kind) →
            Value.Distinct (found.flatMap rule.valuesOf) → ordered.Pairwise rule.Orders) := by
  refine ⟨fun a b first second => ?_, ?_⟩
  · have own : a.kind.isExact = true := first.symm ▸ exact
    exact ⟨Value.natural_eq_iff own (first.trans second.symm),
      Value.order_eq_natural_iff own (first.trans second.symm), Value.Conflates.exists_large⟩
  · obtain ⟨-, answer, -, ran, -⟩ := exists_answer_of_select answered
    obtain ⟨found, searched⟩ := SearchScope.exists_allMatches_of_answer ran
    refine ⟨found, searched, ?_, ?_, exists_ordered_by_contents exact answered searched⟩
    · intro spec plain asked first last values kinds
      exact given_of_distinct exact answered searched plain asked first last kinds
    · intro aggregation property asked named counts different values kinds
      exact count_of_distinct exact answered searched asked named counts different kinds

end Answered

/-- A node, and a query for the different timestamps. -/
theorem exact_values_are_apart_iff_node :
    let scope : StoreScope := ⟨.core, (Configuration.standard "segments.sqlite").searchSettings⟩
    let row : Record := .ofRow ⟨"urn:a", Vocabulary.hasTimestamp, Vocabulary.nodeClass, false, none,
      none, .long 7, false, none⟩
    let database : Database :=
      { Database.empty with tables := [(scope.table ⟨"s", "urn:s"⟩, [row])] }
    let nodes : Container := ⟨.and, [.leaf (.type ⟨[Vocabulary.nodeClass], .eq, false, false⟩)]⟩
    let spec : DistinctSpec := ⟨Vocabulary.hasTimestamp, false, none, false, false⟩
    let query : Query := ⟨[⟨"s", "urn:s"⟩], nodes, [], 0, 0, false, some spec, none, .none⟩
    ∃ result, scope.select database query = .ok result ∧
      ∃ given, result.distinctValues = some given ∧ given.Nodup ∧ [.long 7] ⊆ given := by
  intro scope row database nodes spec query
  -- One evaluation for all that depends on the name of the table.
  have state : (∀ segment ∈ query.segments,
        (database.tableNames.filter (TableName.isSegment scope.settings.tablesStart)).contains
          (scope.table segment) = true) ∧
      ((scope.search.answer query).run database).toOption.map (·.total) = some 1 ∧
      (scope.search.allMatches database query).toOption.map
        (·.flatMap (·.valuesOf (versionless spec.property))) = some [.long 7] := by
    decide +kernel
  obtain ⟨there, answered, stored⟩ := state
  simp only [← hasSegment_eq] at there
  obtain ⟨result, selected, -⟩ :=
    exists_select_of_answer (·.total) (fun _ _ => rfl) answered there
  obtain ⟨-, found, searched, different, -, -⟩ :=
    @exact_values_are_apart_iff scope database query result .long rfl selected
  rw [searched] at stored
  obtain same := Option.some.inj stored
  have given := different spec rfl rfl rfl rfl
  simp only [same] at given
  obtain ⟨given, same, distinct, -, all⟩ := given (by decide)
  exact ⟨result, selected, given, same, distinct, all.2 (by decide)⟩

/-- Two neighbours beyond 2 ^ 53 count as one value. -/
theorem conflated_values_merge :
    let x : Value := .long 9007199254740993
    let y : Value := .long 9007199254740992
    let scope : StoreScope := ⟨.core, (Configuration.standard "segments.sqlite").searchSettings⟩
    let row (uri : String) (time : Value) : Record := .ofRow ⟨uri, Vocabulary.hasTimestamp,
      Vocabulary.nodeClass, false, none, none, time, false, none⟩
    let database : Database := { Database.empty with
      tables := [(scope.table ⟨"s", "urn:s"⟩, [row "urn:a" x]),
        (scope.table ⟨"t", "urn:t"⟩, [row "urn:b" y])] }
    let nodes : Container := ⟨.and, [.leaf (.type ⟨[Vocabulary.nodeClass], .eq, false, false⟩)]⟩
    let distinct : DistinctSpec := ⟨Vocabulary.hasTimestamp, false, none, false, false⟩
    let count : Aggregation := ⟨.count, some Vocabulary.hasTimestamp, true⟩
    let query (distinct : Option DistinctSpec) (aggregation : Option Aggregation) : Query :=
      ⟨[⟨"s", "urn:s"⟩, ⟨"t", "urn:t"⟩], nodes, [], 0, 0, false, distinct, aggregation, .none⟩
    x ≠ y ∧ x.natural y = .gt ∧ x.order y = .eq ∧
      (∃ result, scope.select database (query distinct none) = .ok result ∧
        result.distinctValues = some [x]) ∧
      ∃ result, scope.select database (query none count) = .ok result ∧
        result.aggregation = some ⟨.count, Double.ofInt 1⟩ := by
  intro x y scope row database nodes distinct count query
  have state : (∀ segment ∈ (query none none).segments,
        (database.tableNames.filter (TableName.isSegment scope.settings.tablesStart)).contains
          (scope.table segment) = true) ∧
      ((scope.search.answer (query distinct none)).run database).toOption.map (·.distinctValues) =
        some (some [x]) ∧
      ((scope.search.answer (query none count)).run database).toOption.map (·.aggregation) =
        some (some ⟨.count, Double.ofInt 1⟩) := by
    decide +kernel
  obtain ⟨there, different, counted⟩ := state
  simp only [← hasSegment_eq] at there
  refine ⟨by decide, by decide, by decide +kernel, ?_, ?_⟩
  · exact exists_select_of_answer (·.distinctValues) (fun _ _ => rfl) different there
  · exact exists_select_of_answer (·.aggregation) (fun _ _ => rfl) counted there

end StoreScope

end GraphSegments
