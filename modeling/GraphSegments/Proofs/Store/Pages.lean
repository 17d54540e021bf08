import GraphSegments.Proofs.Search.Segments
import GraphSegments.Proofs.Store.ReadBack

/-!
Pages of a query for objects. They are slices of one listing of all matches, which does not depend
on the order of the segments as long as no two of them hold the same object. Where two of them do,
the page has fewer objects than its total promises.
-/

namespace GraphSegments
open Results GraphSegments.Lists

namespace StoreScope

/-- The searches of a store. -/
def search (scope : StoreScope) : SearchScope :=
  { registry := scope.registry, dialect := .sqlite, settings := scope.settings }

variable {scope : StoreScope} {database : Database} {query : Query}

theorem hasSegment_eq (scope : StoreScope) (database : Database) (segment : Segment) :
    scope.hasSegment database segment =
      (database.tableNames.filter (TableName.isSegment scope.settings.tablesStart)).contains
        (scope.table segment) := by
  apply Bool.eq_iff_iff.2
  simp only [hasSegment, segmentTables, TableName.segments, List.contains_iff_mem,
    List.mem_mergeSort]

/-- Segments that have to exist do so, whatever their order. -/
theorem requireAll_eq_ok {segments : List Segment} :
    (segments.forM fun segment => do let _ ← scope.requireTable database segment) = .ok () ↔
      ∀ segment ∈ segments, scope.hasSegment database segment = true := by
  induction segments with
  | nil => exact ⟨fun _ => by simp, fun _ => rfl⟩
  | cons segment rest ih =>
    rw [List.forM_eq_forM] at ih ⊢
    rw [List.forM_cons, List.forall_mem_cons, ← ih, requireTable]
    by_cases there : scope.hasSegment database segment = true
    · simp [there]
    · simp [there]

/-- A selection is an answer of the search over segments that exist, with what is told about its
statements. -/
theorem select_eq (there : ∀ segment ∈ query.segments, scope.hasSegment database segment = true) :
    ∃ told, scope.select database query =
      ((scope.search.answer query).run database).map fun result => { result with stats := told } := by
  have outcome := scope.search.outcome_answer query database
  unfold select SearchScope.answerWith
  rw [requireAll_eq_ok.2 there, ok_bind, ← outcome]
  exact ⟨_, rfl⟩

theorem exists_answer_of_select {result : ResultList}
    (selected : scope.select database query = .ok result) :
    (∀ segment ∈ query.segments, scope.hasSegment database segment = true) ∧
      ∃ answer told, (scope.search.answer query).run database = .ok answer ∧
        result = { answer with stats := told } := by
  obtain ⟨_, required, -⟩ := bind_eq_ok.1 selected
  have there := requireAll_eq_ok.1 required
  obtain ⟨told, same⟩ := select_eq there
  obtain ⟨answer, ran, rfl⟩ := map_eq_ok.1 (same.symm.trans selected)
  exact ⟨there, answer, told, ran, rfl⟩

theorem exists_select_iff {uris : List String} {total : Nat} :
    (∃ result, scope.select database query = .ok result ∧ result.uris = uris ∧
      result.total = total) ↔
      (∀ segment ∈ query.segments, scope.hasSegment database segment = true) ∧
        ∃ result, (scope.search.answer query).run database = .ok result ∧ result.uris = uris ∧
          result.total = total := by
  constructor
  · rintro ⟨_, selected, rfl, rfl⟩
    obtain ⟨there, answer, told, ran, rfl⟩ := exists_answer_of_select selected
    exact ⟨there, answer, ran, rfl, rfl⟩
  · rintro ⟨there, answer, ran, rfl, rfl⟩
    obtain ⟨told, same⟩ := select_eq there
    exact ⟨_, same.trans (congrArg _ ran), rfl, rfl⟩

section Answered

variable {result : ResultList} (plain : query.IsPlain)
  (strict : scope.settings.read.ignoreBroken = false)
  (answered : scope.select database query = .ok result)
include plain strict answered

theorem exists_listing :
    ∃ listing, scope.search.Lists database query listing ∧ result.total = listing.length ∧
      result.uris = ((listing.drop query.offset).take query.effectiveLimit).eraseDups := by
  obtain ⟨-, found, ran, uris, total⟩ := exists_select_iff.1 ⟨result, answered, rfl, rfl⟩
  rw [← uris, ← total]
  exact SearchScope.page_of_answer plain strict ran

/-- The size of a page is what the total promises exactly if the page of the listing has no object
twice. -/
theorem page_size_iff :
    ∃ listing, scope.search.Lists database query listing ∧ result.total = listing.length ∧
      (result.results.length = min query.effectiveLimit (result.total - query.offset) ↔
        ((listing.drop query.offset).take query.effectiveLimit).Nodup) := by
  obtain ⟨listing, lists, total, uris⟩ := exists_listing plain strict answered
  have promised : min query.effectiveLimit (result.total - query.offset) =
      ((listing.drop query.offset).take query.effectiveLimit).length := by
    rw [List.length_take, List.length_drop, total]
  have given : result.results.length =
      ((listing.drop query.offset).take query.effectiveLimit).eraseDups.length := by
    rw [← uris, ResultList.uris, List.length_map]
  exact ⟨listing, lists, total, by rw [given, promised, length_eraseDups_eq_iff]⟩

end Answered

/-- An object that is the only match of a segment is counted twice by a query that lists the segment
twice, and given once. -/
theorem exists_select_of_twice {segment : Segment} {criteria : Container} {object : GraphObject}
    {rows : List Row} (stated : criteria.elements.isEmpty = false)
    (normal : criteria.normalize scope.registry = .ok criteria)
    (state : scope.hasSegment database segment = true ∧
      (scope.search.found database criteria segment).toOption = some [object.uri] ∧
      (database.recordsOf (scope.table segment) >>= fun records =>
        Record.toRows false (records.filter (·.uri == object.uri))).toOption = some rows)
    (batch : DecodedObject.ofBatch scope.registry
      { scope.settings.read with overflow := .deferred } rows = .ok [⟨object, []⟩]) :
    let query : Query := ⟨[segment, segment], criteria, [], 0, 0, false, none, none, .none⟩
    ∃ result, scope.select database query = .ok result ∧ result.total = 2 ∧
      result.results.length < min query.effectiveLimit (result.total - query.offset) := by
  intro query
  obtain ⟨there, found, read⟩ := state
  let hit (place : Nat) : Hit := ⟨object.uri, place, [], .zero⟩
  have valid : query.validate = .ok () := by
    rw [Query.validate, stated]
    rfl
  have ranked : query.segments.zipIdx.mapM (scope.search.hits database criteria []) =
      .ok [[hit 0], [hit 1]] :=
    have each := SearchScope.hits_singleton (eq_ok_of_toOption found)
    mapM_eq_ok.2 (congrArg₂ (fun a b => [a, b]) (each 0) (each 1))
  have page : Hit.page query [] [hit 0, hit 1] = [hit 0, hit 1] := by
    have alike : (hit 0).order [] (hit 1) = .eq := by
      change (Double.zero.totalCompare .zero).then (compare object.uri object.uri) = .eq
      rw [Std.ReflOrd.compare_self]
      decide
    change (List.take _ (if (hit 0).order [] (hit 1) = .gt then [hit 1, hit 0] else
      [hit 0, hit 1])) = _
    rw [alike]
    rfl
  have loaded : query.segments.zipIdx.mapM (scope.search.loaded database [hit 0, hit 1]) =
      .ok [[object], [object]] := by
    have each (place : Nat) (own : ([hit 0, hit 1].filter (·.segment == place)).map (·.uri) =
        [object.uri]) : scope.search.loaded database [hit 0, hit 1] (segment, place) =
          .ok [object] :=
      SearchScope.loaded_singleton own (eq_ok_of_toOption read) batch
    exact mapM_eq_ok.2 (congrArg₂ (fun a b => [a, b]) (each 0 rfl) (each 1 rfl))
  have plain : query.IsPlain := ⟨rfl, rfl, rfl⟩
  obtain ⟨result, answered, uris, total⟩ := exists_select_iff.2 ⟨by simpa [query] using there, _,
    (SearchScope.run_answer_eq_ok plain).2
      ⟨valid, criteria, normal, [], rfl, _, ranked, _, page ▸ loaded, rfl⟩, rfl, rfl⟩
  have two : result.total = 2 := total
  have once : result.uris = [object.uri] := by
    rw [uris, ResultList.uris, Loading.uris_deliver]
    simp [page, hit, List.eraseDups_cons]
  have one : result.results.length = 1 := by
    rw [← List.length_map (f := (·.object.uri)), ← ResultList.uris, once, List.length_singleton]
  have promised : 1 < min Query.defaultLimit (2 - 0) := by decide
  exact ⟨result, answered, two, by rw [one, two]; exact promised⟩

/-- A segment with one node is listed twice, and so is the node. Its page falls short. -/
theorem page_size_iff_listed_twice :
    let scope : StoreScope := ⟨.core, (Configuration.standard "segments.sqlite").searchSettings⟩
    let segment : Segment := ⟨"s", "urn:s"⟩
    let node : GraphObject := .ofClass "urn:a" Vocabulary.nodeClass
    let database := Database.ofTable (scope.table segment)
      (((node.toRows .core).toOption.getD []).map .ofRow)
    let nodes : Container := ⟨.and, [.leaf (.type ⟨[Vocabulary.nodeClass], .eq, false, false⟩)]⟩
    let query : Query := ⟨[segment, segment], nodes, [], 0, 0, false, none, none, .none⟩
    ∃ result, scope.select database query = .ok result ∧
      ∃ listing, scope.search.Lists database query listing ∧ listing.length = 2 ∧
        ¬ ((listing.drop query.offset).take query.effectiveLimit).Nodup := by
  intro scope segment node database nodes query
  let rows := (node.toRows .core).toOption.getD []
  have batch : DecodedObject.ofBatch .core { scope.settings.read with overflow := .deferred } rows =
      .ok [⟨node, []⟩] := eq_ok_of_toOption (by decide +kernel)
  obtain ⟨result, answered, two, fewer⟩ :=
    @exists_select_of_twice scope database segment nodes node rows rfl rfl (by decide +kernel) batch
  obtain ⟨listing, lists, total, same⟩ := page_size_iff ⟨rfl, rfl, rfl⟩ rfl answered
  exact ⟨result, answered, listing, lists, total ▸ two, fun distinct =>
    Nat.ne_of_lt fewer (same.2 distinct)⟩

/-- A query that lists a segment twice counts its objects twice, and gives them once. -/
theorem shared_object_shortens_page :
    let segment : Segment := ⟨"s", "urn:s"⟩
    let node : GraphObject := .ofClass "urn:a" Vocabulary.nodeClass
    let nodes : Container := ⟨.and, [.leaf (.type ⟨[Vocabulary.nodeClass], .eq, false, false⟩)]⟩
    let query : Query := ⟨[segment, segment], nodes, [], 0, 0, false, none, none, .none⟩
    let empty := Store.ofDatabase (.standard "segments.sqlite") .core Database.empty.setUp.2
    let store := empty.afterAll [.addSegment segment, .save none segment [node] [segment]]
    Store.create (.standard "segments.sqlite") .core = .ok empty ∧ query.IsPlain ∧
      empty.scope.settings.read.ignoreBroken = false ∧
      ∃ result, empty.scope.select store.database query = .ok result ∧ result.total = 2 ∧
        result.results.length < min query.effectiveLimit (result.total - query.offset) := by
  -- Without names for its parts, as what the kernel evaluates has none.
  dsimp only
  refine ⟨Store.create_eq_ok _ rfl, ⟨rfl, rfl, rfl⟩, rfl, ?_⟩
  exact @exists_select_of_twice _ _ _ _ (.ofClass "urn:a" Vocabulary.nodeClass)
    (((GraphObject.ofClass "urn:a" Vocabulary.nodeClass).toRows .core).toOption.getD [])
    rfl rfl (by decide +kernel) (eq_ok_of_toOption (by decide +kernel))

section Apart

variable {result : ResultList} (plain : query.IsPlain)
  (strict : scope.settings.read.ignoreBroken = false)
  (answered : scope.select database query = .ok result)
  (free : ∀ key ∈ query.sort, key.property ≠ Vocabulary.indexOrderPseudo)
  (apart : query.segments.Pairwise (scope.search.Apart database)) {listing : List String}

include apart in
/-- A listing has every object once, so leaving out repetitions takes nothing from its slices. -/
theorem eraseDups_slice (lists : scope.search.Lists database query listing) (offset limit : Nat) :
    ((listing.drop offset).take limit).eraseDups = (listing.drop offset).take limit :=
  eraseDups_of_nodup ((SearchScope.nodup_of_lists apart lists).sublist
    ((List.take_sublist limit _).trans (List.drop_sublist offset listing)))

include plain strict answered free apart

theorem page_eq_slice (lists : scope.search.Lists database query listing) :
    result.total = listing.length ∧
      result.uris = (listing.drop query.offset).take query.effectiveLimit := by
  obtain ⟨own, listsToo, total, uris⟩ := exists_listing plain strict answered
  obtain rfl : own = listing := SearchScope.lists_unique free apart (.refl _) lists listsToo
  exact ⟨total, uris.trans (eraseDups_slice apart lists _ _)⟩

/-- The same page is given whatever the order of the segments. -/
theorem exists_select_of_perm {segments : List Segment} (perm : segments.Perm query.segments) :
    ∃ permuted, scope.select database { query with segments := segments } = .ok permuted ∧
      permuted.uris = result.uris ∧ permuted.total = result.total := by
  let moved : Query := { query with segments := segments }
  have plainToo : moved.IsPlain := ⟨plain.aggregation, plain.distinct, plain.projectionOnly⟩
  obtain ⟨listing, lists, total, uris⟩ := exists_listing plain strict answered
  obtain ⟨there, _, ran, -, -⟩ := exists_select_iff.1 ⟨result, answered, rfl, rfl⟩
  obtain ⟨other, ranToo⟩ := SearchScope.exists_answer_of_perm free apart perm plain ran
  obtain ⟨own, listsToo, totalToo, urisToo⟩ := SearchScope.page_of_answer plainToo strict ranToo
  obtain rfl : own = listing := SearchScope.lists_unique free apart perm lists listsToo
  exact exists_select_iff.2 ⟨fun segment listed => there segment (perm.mem_iff.1 listed), other,
    ranToo, urisToo.trans uris.symm, totalToo.trans total.symm⟩

omit answered in
/-- Consecutive pages of one size join to the front of the listing. -/
theorem flatMap_pages (lists : scope.search.Lists database query listing) {size count : Nat}
    {pages : Nat → ResultList} (positive : 0 < size)
    (turned : ∀ number < count, scope.select database
      { query with offset := number * size, limit := size } = .ok (pages number)) :
    ((List.range count).flatMap fun number => (pages number).uris) =
      listing.take (count * size) := by
  rw [← flatMap_slices]
  apply List.flatMap_congr
  intro number early
  let turn : Query := { query with offset := number * size, limit := size }
  have plainToo : turn.IsPlain := ⟨plain.aggregation, plain.distinct, plain.projectionOnly⟩
  have limit : turn.effectiveLimit = size := if_pos positive
  have answered : scope.select database turn = .ok (pages number) :=
    turned number (List.mem_range.1 early)
  obtain ⟨-, uris⟩ := page_eq_slice plainToo strict answered free apart lists
  rw [uris, limit]

/-- Pages are slices of one listing of all matches in order, whatever the order of the segments, so
that consecutive pages join to the listing. -/
theorem pages_are_slices :
    ∃ listing : List String, scope.search.Lists database query listing ∧
      (∀ other, scope.search.Lists database query other → other = listing) ∧
      listing.Nodup ∧ result.total = listing.length ∧
      result.uris = (listing.drop query.offset).take query.effectiveLimit ∧
      (∀ segments, segments.Perm query.segments →
        ∃ permuted, scope.select database { query with segments := segments } = .ok permuted ∧
          permuted.uris = result.uris ∧ permuted.total = result.total) ∧
      ∀ (size count : Nat) (pages : Nat → ResultList), 0 < size →
        (∀ number < count, scope.select database
          { query with offset := number * size, limit := size } = .ok (pages number)) →
        ((List.range count).flatMap fun number => (pages number).uris) =
          listing.take (count * size) := by
  obtain ⟨listing, lists, -, -⟩ := exists_listing plain strict answered
  obtain ⟨total, uris⟩ := page_eq_slice plain strict answered free apart lists
  refine ⟨listing, lists, ?_, SearchScope.nodup_of_lists apart lists, total, uris, ?_, ?_⟩
  · intro other also
    exact SearchScope.lists_unique free apart (.refl _) lists also
  · intro segments perm
    exact exists_select_of_perm plain strict answered free apart perm
  · intro size count pages positive turned
    exact flatMap_pages plain strict free apart lists positive turned

end Apart

/-- Two nodes in a segment each, the later one first. The page is without it. -/
theorem pages_are_slices_later_first :
    let scope : StoreScope := ⟨.core, (Configuration.standard "segments.sqlite").searchSettings⟩
    let one : Segment := ⟨"s", "urn:s"⟩
    let other : Segment := ⟨"t", "urn:t"⟩
    let node (uri : String) (time : Int64) : GraphObject :=
      (GraphObject.ofClass uri Vocabulary.nodeClass).set Vocabulary.hasTimestamp
        (.single (.long time))
    let table (segment : Segment) (object : GraphObject) : String × List Record :=
      (scope.table segment, ((object.toRows .core).toOption.getD []).map .ofRow)
    let database : Database := { Database.empty with
      tables := [table one (node "urn:a" 7), table other (node "urn:b" 9)] }
    let nodes : Container := ⟨.and, [.leaf (.type ⟨[Vocabulary.nodeClass], .eq, false, false⟩)]⟩
    let query : Query :=
      ⟨[one, other], nodes, [⟨Vocabulary.hasTimestamp, true⟩], 1, 1, false, none, none, .none⟩
    ∃ result, scope.select database query = .ok result ∧ result.uris = ["urn:a"] ∧
      ∃ listing : List String, scope.search.Lists database query listing ∧ listing.Nodup ∧
        result.total = listing.length ∧ result.uris = (listing.drop 1).take 1 ∧
        ∃ permuted, scope.select database { query with segments := [other, one] } =
          .ok permuted ∧ permuted.uris = result.uris ∧ permuted.total = result.total := by
  intro scope one other node table database nodes query
  let rules : List SortRule := [⟨.timestamp, true⟩]
  let hit (uri : String) (place : Nat) (time : Int64) : Hit :=
    ⟨uri, place, [.value (some (.long time))], .zero⟩
  let rows := ((node "urn:a" 7).toRows .core).toOption.getD []
  have there : ∀ segment ∈ query.segments, scope.hasSegment database segment = true := by
    simp only [hasSegment_eq]
    decide +kernel
  have ranked : query.segments.zipIdx.mapM (scope.search.hits database nodes rules) =
      .ok [[hit "urn:a" 0 7], [hit "urn:b" 1 9]] := by
    have first : scope.search.hits database nodes rules (one, 0) = .ok [hit "urn:a" 0 7] :=
      eq_ok_of_toOption (by decide +kernel)
    have second : scope.search.hits database nodes rules (other, 1) = .ok [hit "urn:b" 1 9] :=
      eq_ok_of_toOption (by decide +kernel)
    exact mapM_eq_ok.2 (congrArg₂ (fun a b => [a, b]) first second)
  have read : (database.recordsOf (scope.table one) >>= fun records =>
      Record.toRows false (records.filter (·.uri == "urn:a"))).toOption = some rows := by
    decide +kernel
  have apart : ∀ x ∈ scope.search.held database one, ∀ y ∈ scope.search.held database other,
      x.uri ≠ y.uri := by decide +kernel
  have page : Hit.page query rules [hit "urn:a" 0 7, hit "urn:b" 1 9] = [hit "urn:a" 0 7] := by
    decide +kernel
  have loaded : query.segments.zipIdx.mapM (scope.search.loaded database [hit "urn:a" 0 7]) =
      .ok [[node "urn:a" 7], []] := by
    have first : scope.search.loaded database [hit "urn:a" 0 7] (one, 0) =
        .ok [node "urn:a" 7] :=
      SearchScope.loaded_singleton rfl (eq_ok_of_toOption read)
        (eq_ok_of_toOption (by decide +kernel))
    have second : scope.search.loaded database [hit "urn:a" 0 7] (other, 1) = .ok [] := rfl
    exact mapM_eq_ok.2 (congrArg₂ (fun a b => [a, b]) first second)
  obtain ⟨result, answered, uris, -⟩ := exists_select_iff.2 ⟨there, _,
    (SearchScope.run_answer_eq_ok ⟨rfl, rfl, rfl⟩).2
      ⟨rfl, nodes, rfl, rules, rfl, _, ranked, _, page ▸ loaded, rfl⟩, rfl, rfl⟩
  have free : ∀ key ∈ query.sort, key.property ≠ Vocabulary.indexOrderPseudo := by decide
  have plain : query.IsPlain := ⟨rfl, rfl, rfl⟩
  obtain ⟨listing, lists, -, distinct, total, slice, anyOrder, -⟩ :=
    pages_are_slices plain rfl answered free (List.pairwise_pair.2 apart)
  exact ⟨result, answered, uris.trans (by decide +kernel), listing, lists, distinct, total, slice,
    anyOrder [other, one] (.swap one other [])⟩

end StoreScope

end GraphSegments
