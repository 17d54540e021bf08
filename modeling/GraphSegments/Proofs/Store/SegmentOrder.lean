import GraphSegments.Proofs.Search.Merging
import GraphSegments.Proofs.Store.DistinctValues

/-!
Queries for different values over segments in another order. They are answered alike: the order of
the segments decides only which one of equal values stands for them, and not even that unless two
segments, each asked on its own, give equal values that are not the same.
-/

namespace GraphSegments
open Results SearchScope

/-- A query for all different values of a single segment. -/
def Query.alone (query : Query) (segment : Segment) : Query :=
  { query with
    segments := [segment]
    distinct := query.distinct.map fun spec => { spec with first := false, last := false } }

theorem Query.validate_alone {query : Query} {spec : DistinctSpec}
    (asked : query.distinct = some spec) (segment : Segment) :
    (query.alone segment).validate = query.validate := by
  simp [validate, alone, asked]

namespace StoreScope

variable {scope : StoreScope} {database : Database} {query : Query} {spec : DistinctSpec}

section Asked

variable (asked : query.distinct = some spec)
include asked

/-- An answer with different values has those of a set of the values that its segments give. -/
theorem exists_values_of_select {result : ResultList}
    (answered : scope.select database query = .ok result) :
    (∀ segment ∈ query.segments, scope.hasSegment database segment = true) ∧
      query.validate = .ok () ∧ ∃ values,
        scope.search.valuesOf database query spec.property = .ok values ∧
        result.distinctValues = some (distinctValues spec (Value.collected values.flatten)) ∧
        result.total = (Value.collected values.flatten).length := by
  obtain ⟨there, answer, told, ran, rfl⟩ := exists_answer_of_select answered
  rw [run_answer_of_distinct asked] at ran
  obtain ⟨⟨⟩, valid, ran⟩ := bind_eq_ok.1 ran
  obtain ⟨values, found, rfl⟩ := map_eq_ok.1 ran
  exact ⟨there, valid, values, found, rfl, rfl⟩

/-- Segments that exist and give values are answered for. -/
theorem exists_select_of_values {values : List (List Value)}
    (there : ∀ segment ∈ query.segments, scope.hasSegment database segment = true)
    (valid : query.validate = .ok ())
    (found : scope.search.valuesOf database query spec.property = .ok values) :
    ∃ result, scope.select database query = .ok result ∧
      result.distinctValues = some (distinctValues spec (Value.collected values.flatten)) ∧
      result.total = (Value.collected values.flatten).length := by
  obtain ⟨told, same⟩ := select_eq there
  rw [run_answer_of_distinct asked, valid, ok_bind, found] at same
  exact ⟨_, same, rfl, rfl⟩

/-- In another order the segments give the same values in another order, and are answered for. -/
theorem exists_select_of_distinct_perm {values : List (List Value)}
    (there : ∀ segment ∈ query.segments, scope.hasSegment database segment = true)
    (valid : query.validate = .ok ())
    (found : scope.search.valuesOf database query spec.property = .ok values)
    {segments : List Segment} (perm : segments.Perm query.segments) :
    ∃ (others : List (List Value)) (other : ResultList), others.Perm values ∧
      scope.search.valuesOf database { query with segments := segments } spec.property =
        .ok others ∧
      scope.select database { query with segments := segments } = .ok other ∧
      other.distinctValues = some (distinctValues spec (Value.collected others.flatten)) ∧
      other.total = (Value.collected others.flatten).length := by
  let moved : Query := { query with segments := segments }
  have askedToo : moved.distinct = some spec := asked
  have thereToo : ∀ segment ∈ moved.segments, scope.hasSegment database segment = true :=
    fun segment listed => there segment (perm.mem_iff.1 listed)
  obtain ⟨others, gives, rearranged⟩ := exists_valuesOf_of_perm perm found
  obtain ⟨other, selected⟩ := exists_select_of_values askedToo thereToo valid gives
  exact ⟨others, other, rearranged, gives, selected⟩

/-- A segment that is asked on its own gives the set of its values. -/
theorem exists_select_alone {segment : Segment} {own : List Value}
    (there : scope.hasSegment database segment = true) (valid : query.validate = .ok ())
    (gives : scope.search.valuesOf database { query with segments := [segment] } spec.property =
      .ok [own]) :
    ∃ alone listing, scope.select database (query.alone segment) = .ok alone ∧
      alone.distinctValues = some listing ∧
      ∀ value, value ∈ listing ↔ value ∈ Value.collected own := by
  have askedToo : (query.alone segment).distinct =
      some { spec with first := false, last := false } := by
    rw [Query.alone, asked]
    rfl
  have thereToo : ∀ other ∈ (query.alone segment).segments,
      scope.hasSegment database other = true := by
    intro other only
    rwa [List.mem_singleton.1 only]
  obtain ⟨alone, selected, given, -⟩ := exists_select_of_values askedToo thereToo
    ((query.validate_alone asked segment).trans valid) gives
  refine ⟨alone, _, selected, given, fun value => ?_⟩
  rw [(perm_distinctValues rfl rfl _).mem_iff, List.flatten_singleton]

end Asked

/-- The different values of a property do not depend on the order of the segments but for which one
of equal values stands for them. In every order a query for them is answered if it is in one, with
the same total and with values that are equal place by place. They are the very same values in
every order exactly if no segment, asked on its own, gives a value that is equal to one of them and
not the same. -/
theorem distinct_values_ignore_segment_order_iff {result : ResultList}
    (asked : query.distinct = some spec) (answered : scope.select database query = .ok result) :
    ∃ given, result.distinctValues = some given ∧
      (∀ segments : List Segment, segments.Perm query.segments → ∃ other others,
        scope.select database { query with segments := segments } = .ok other ∧
        other.total = result.total ∧ other.distinctValues = some others ∧
        Value.Alike given others) ∧
      ((∀ segments other, segments.Perm query.segments →
          scope.select database { query with segments := segments } = .ok other →
          other.distinctValues = some given) ↔
        ∀ segment ∈ query.segments, ∃ alone own,
          scope.select database (query.alone segment) = .ok alone ∧
          alone.distinctValues = some own ∧ ∀ x ∈ own, ∀ y ∈ given, x.order y = .eq → x = y) := by
  obtain ⟨there, valid, values, found, same, total⟩ := exists_values_of_select asked answered
  have rearranged {segments : List Segment} (perm : segments.Perm query.segments) :=
    exists_select_of_distinct_perm asked there valid found perm
  obtain ⟨each, all⟩ := exists_valuesOf_alone found
  refine ⟨_, same, fun segments perm => ?_, ?_⟩
  · obtain ⟨others, other, perms, -, selected, given, length⟩ := rearranged perm
    have alike := Value.alike_collected_of_perm perms.symm
    exact ⟨other, _, selected, by rw [length, total, alike.length_eq], given,
      alike_distinctValues spec alike⟩
  constructor
  · intro fixed segment listed
    obtain ⟨own, -, gives⟩ := each segment listed
    obtain ⟨alone, listing, selected, shown, lists⟩ :=
      exists_select_alone asked (there segment listed) valid gives
    refine ⟨alone, listing, selected, shown, fun x inside y chosen equal => ?_⟩
    -- With this segment in front of the others, its own values stand for all that are equal.
    have front : (segment :: query.segments.erase segment).Perm query.segments :=
      (List.perm_cons_erase listed).symm
    obtain ⟨others, other, -, found, selected, given, -⟩ := rearranged front
    obtain ⟨rest, rfl⟩ := exists_eq_cons_of_valuesOf gives found
    have kept := Option.some.inj (given.symm.trans (fixed _ other front selected))
    have first : x ∈ Value.collected (own :: rest).flatten := by
      rw [List.flatten_cons]
      exact Value.collected_subset_append own rest.flatten ((lists x).1 inside)
    have second : y ∈ Value.collected (own :: rest).flatten :=
      distinctValues_subset spec (kept ▸ chosen)
    exact (Value.isSetOf_collected _).eq_of_order first second equal
  · intro agree segments other perm selected
    obtain ⟨others, _, perms, -, selectedToo, given, -⟩ := rearranged perm
    obtain rfl := Except.ok.inj (selected.symm.trans selectedToo)
    have alike := alike_distinctValues spec (Value.alike_collected_of_perm perms)
    rw [given, alike.eq_of_representatives]
    intro x left y right equal
    obtain ⟨own, member, inside⟩ :=
      Value.exists_mem_collected_of_flatten (distinctValues_subset spec left)
    obtain ⟨segment, listed, gives⟩ := all own (perms.mem_iff.1 member)
    obtain ⟨alone, listing, selected, shown, same⟩ := agree segment listed
    obtain ⟨_, _, selectedToo, shownToo, lists⟩ :=
      exists_select_alone asked (there segment listed) valid gives
    obtain rfl := Except.ok.inj (selected.symm.trans selectedToo)
    obtain rfl := Option.some.inj (shown.symm.trans shownToo)
    exact same x ((lists x).2 inside) y right equal

/-- An integer in one segment and a long number in another, of one property that no ontology
defines. -/
theorem distinct_values_ignore_segment_order_iff_mixed_kinds :
    let scope : StoreScope := ⟨.core, (Configuration.standard "segments.sqlite").searchSettings⟩
    let row (uri : String) (value : Value) : Record :=
      .ofRow ⟨uri, "urn:n", Vocabulary.containerClass, true, none, none, value, false, none⟩
    let database : Database := { Database.empty with
      tables := [(scope.table ⟨"s", "urn:s"⟩, [row "urn:a" (.integer 7)]),
        (scope.table ⟨"t", "urn:t"⟩, [row "urn:b" (.long 8)])] }
    let boxes : Container :=
      ⟨.and, [.leaf (.type ⟨[Vocabulary.containerClass], .eq, false, false⟩)]⟩
    let query : Query := ⟨[⟨"s", "urn:s"⟩, ⟨"t", "urn:t"⟩], boxes, [], 0, 0, false,
      some ⟨"urn:n", false, none, false, false⟩, none, .none⟩
    ∀ segments other, segments.Perm query.segments →
      scope.select database { query with segments := segments } = .ok other →
      other.distinctValues = some [.integer 7, .long 8] := by
  intro scope row database boxes query
  -- One evaluation for all that depends on the names of the tables.
  have state : (∀ segment ∈ query.segments,
        (database.tableNames.filter (TableName.isSegment scope.settings.tablesStart)).contains
          (scope.table segment) = true) ∧
      ((scope.search.answer query).run database).toOption.map (·.distinctValues) =
        some (some [.integer 7, .long 8]) ∧
      ∀ segment ∈ query.segments,
        ((scope.search.answer (query.alone segment)).run database).toOption.map
          (·.distinctValues) = some (some
            (if segment.id = "s" then [.integer 7] else [.long 8])) := by
    decide +kernel
  obtain ⟨there, together, apart⟩ := state
  simp only [← hasSegment_eq] at there
  obtain ⟨result, selected, same⟩ :=
    exists_select_of_answer (·.distinctValues) (fun _ _ => rfl) together there
  obtain ⟨given, shown, -, fixed⟩ := distinct_values_ignore_segment_order_iff rfl selected
  obtain rfl := Option.some.inj (shown.symm.trans same)
  refine fixed.2 fun segment listed => ?_
  obtain ⟨alone, answered, own⟩ := exists_select_of_answer (·.distinctValues) (fun _ _ => rfl)
    (apart segment listed) fun other only => there other (List.mem_singleton.1 only ▸ listed)
  refine ⟨alone, _, answered, own, ?_⟩
  split <;> decide +kernel

/-- Seven as an integer and as a long number: the segment that comes first decides which is
given. -/
theorem first_segment_gives_value :
    let scope : StoreScope := ⟨.core, (Configuration.standard "segments.sqlite").searchSettings⟩
    let row (uri : String) (value : Value) : Record :=
      .ofRow ⟨uri, "urn:n", Vocabulary.containerClass, true, none, none, value, false, none⟩
    let database : Database := { Database.empty with
      tables := [(scope.table ⟨"s", "urn:s"⟩, [row "urn:a" (.integer 7)]),
        (scope.table ⟨"t", "urn:t"⟩, [row "urn:b" (.long 7)])] }
    let boxes : Container :=
      ⟨.and, [.leaf (.type ⟨[Vocabulary.containerClass], .eq, false, false⟩)]⟩
    let query (segments : List Segment) : Query := ⟨segments, boxes, [], 0, 0, false,
      some ⟨"urn:n", false, none, false, false⟩, none, .none⟩
    (∃ result, scope.select database (query [⟨"s", "urn:s"⟩, ⟨"t", "urn:t"⟩]) = .ok result ∧
        result.distinctValues = some [.integer 7]) ∧
      ∃ result, scope.select database (query [⟨"t", "urn:t"⟩, ⟨"s", "urn:s"⟩]) = .ok result ∧
        result.distinctValues = some [.long 7] := by
  intro scope row database boxes query
  have state : (∀ segment ∈ [(⟨"s", "urn:s"⟩ : Segment), ⟨"t", "urn:t"⟩],
        (database.tableNames.filter (TableName.isSegment scope.settings.tablesStart)).contains
          (scope.table segment) = true) ∧
      ((scope.search.answer (query [⟨"s", "urn:s"⟩, ⟨"t", "urn:t"⟩])).run database).toOption.map
        (·.distinctValues) = some (some [.integer 7]) ∧
      ((scope.search.answer (query [⟨"t", "urn:t"⟩, ⟨"s", "urn:s"⟩])).run database).toOption.map
        (·.distinctValues) = some (some [.long 7]) := by
    decide +kernel
  obtain ⟨there, forwards, backwards⟩ := state
  simp only [← hasSegment_eq] at there
  refine ⟨?_, ?_⟩
  · exact exists_select_of_answer (·.distinctValues) (fun _ _ => rfl) forwards there
  · refine exists_select_of_answer (·.distinctValues) (fun _ _ => rfl) backwards ?_
    exact fun segment listed => there segment ((List.Perm.swap ..).mem_iff.1 listed)

end StoreScope

end GraphSegments
