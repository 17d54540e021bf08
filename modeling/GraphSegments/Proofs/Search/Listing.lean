import GraphSegments.Proofs.Search.Answers
import GraphSegments.Proofs.Search.Fetching
import GraphSegments.Proofs.Values.Order

/-!
The matches of a query in the order that its sort keys ask for. The hits that a search ranks are
these matches, each with its keys, in the same order.
-/

namespace GraphSegments
open Results Dialogue

/-- The URIs of the objects in an answer. -/
def ResultList.uris (result : ResultList) : List String := result.results.map (·.object.uri)

/-- A match of a query: an object, and where it was found. -/
structure Match where
  uri : String
  /-- What the table holds in which the object was found. -/
  records : List Record
  /-- The place of the segment in the query. -/
  segment : Nat
  /-- The place of the object among the matches of its segment. -/
  position : Nat

/-- Values are compared by their order; in `Option Value` a missing one is below all others. -/
instance : Ord Value := ⟨Value.order⟩

instance : Std.TransOrd Value := inferInstanceAs (Std.TransCmp Value.order)

namespace SortRule

/-- The order of matches under a rule, before it is reversed. -/
def ascending (rule : SortRule) : Match → Match → Ordering :=
  match rule.mode with
  | .indexOrder => compareLex (compareOn Match.segment) (compareOn Match.position)
  | .uri => compareOn Match.uri
  | .timestamp => compareOn fun found => (Record.stampsOf found.records found.uri).getLast?
  | .property name =>
    compareOn fun found => (Record.valuesOf found.records name found.uri).getLast?

/-- The order of matches under a rule. -/
def order (rule : SortRule) (a b : Match) : Ordering :=
  if rule.reverse then rule.ascending b a else rule.ascending a b

instance (rule : SortRule) : Std.TransCmp rule.ascending := by
  unfold ascending
  cases rule.mode <;> infer_instance

instance (rule : SortRule) : Std.TransCmp rule.order := by
  obtain ⟨mode, reverse⟩ := rule
  cases reverse with
  | false => exact inferInstanceAs (Std.TransCmp (ascending ⟨mode, false⟩))
  | true => exact inferInstanceAs (Std.TransCmp fun a b => ascending ⟨mode, true⟩ b a)

/-- What a match is sorted by under a rule. -/
def keyOf (rule : SortRule) (found : Match) : HitKey :=
  match rule.mode with
  | .indexOrder => .position found.segment found.position
  | .uri => .text found.uri
  | .timestamp => .value (Record.stampsOf found.records found.uri).getLast?
  | .property name => .value (Record.valuesOf found.records name found.uri).getLast?

theorem order_value (a b : Option Value) :
    (HitKey.value a).order (.value b) = compare a b := by
  cases a <;> cases b <;> rfl

theorem order_keyOf (rule : SortRule) (a b : Match) :
    (rule.keyOf a).order (rule.keyOf b) = rule.ascending a b := by
  unfold keyOf ascending
  cases rule.mode with
  | indexOrder => rfl
  | uri => rfl
  | timestamp => exact order_value _ _
  | property name => exact order_value _ _

end SortRule

namespace Match

/-- The order of matches: the first rule that tells them apart decides, and if there is none, the
smaller URI comes first. -/
def order : List SortRule → Match → Match → Ordering
  | [] => compareOn Match.uri
  | rule :: rest => compareLex rule.order (order rest)

instance (rules : List SortRule) : Std.TransCmp (order rules) := by
  induction rules with
  | nil => exact inferInstanceAs (Std.TransCmp (compareOn Match.uri))
  | cons rule rest ih => exact inferInstanceAs (Std.TransCmp (compareLex rule.order (order rest)))

/-- Only a URI is not told apart from itself. -/
theorem uri_eq_of_order {rules : List SortRule} {a b : Match} (alike : order rules a b = .eq) :
    a.uri = b.uri := by
  induction rules with
  | nil => exact Std.LawfulEqOrd.eq_of_compare alike
  | cons rule rest ih => exact ih (Ordering.then_eq_eq.1 alike).2

/-- The matches of one segment in their order. -/
def ofUris (records : List Record) (segment : Nat) (uris : List String) : List Match :=
  uris.zipIdx.map fun (uri, position) => ⟨uri, records, segment, position⟩

/-- The hit that a match is. -/
def hit (rules : List SortRule) (found : Match) : Hit :=
  ⟨found.uri, found.segment, rules.map (·.keyOf found), .zero⟩

theorem order_hit (rules : List SortRule) (a b : Match) :
    (a.hit rules).order (rules.map (·.reverse)) (b.hit rules) = order rules a b := by
  have scores : Double.zero.totalCompare .zero = .eq := by decide
  have keys : order rules a b = (Hit.orderKeys (rules.map (·.keyOf a)) (rules.map (·.keyOf b))
      (rules.map (·.reverse))).then (compare a.uri b.uri) := by
    induction rules with
    | nil => rfl
    | cons rule rest ih =>
      have first : rule.order a b = if rule.reverse then
          ((rule.keyOf a).order (rule.keyOf b)).swap else (rule.keyOf a).order (rule.keyOf b) := by
        have swapped : rule.ascending b a = (rule.ascending a b).swap := Std.OrientedCmp.eq_swap
        rw [SortRule.order_keyOf, SortRule.order, swapped]
      change (rule.order a b).then (order rest a b) = _
      rw [ih, first, List.map_cons, List.map_cons, List.map_cons, Hit.orderKeys]
      exact (Ordering.then_assoc _ _ _).symm
  rw [keys, Hit.order]
  change (Hit.orderKeys _ _ _).then ((Double.zero.totalCompare .zero).then _) = _
  rw [scores]
  rfl

theorem map_uri_slice (rules : List SortRule) (found : List Match) (offset limit : Nat) :
    (((found.drop offset).take limit).map (hit rules)).map (·.uri) =
      ((found.map (·.uri)).drop offset).take limit := by
  rw [List.map_map, ← List.map_drop, ← List.map_take]
  rfl

/-- The hits of matches in order are those of the matches in order. -/
theorem exists_sorted (rules : List SortRule) (found : List Match) :
    ∃ ordered : List Match,
      Hit.sorted (rules.map (·.reverse)) (found.map (hit rules)) = ordered.map (hit rules) ∧
      ordered.Perm found ∧ ordered.Pairwise fun a b => (order rules a b).isLE :=
  Hit.exists_sorted (hit rules) (order rules) (order_hit rules) found

end Match

namespace SearchScope

section Rank

variable {database : Database} {table : String} {records : List Record}
  (present : database.recordsOf table = .ok records) {uris : List String} (distinct : uris.Nodup)
include present distinct

/-- A match has the key that its rule asks for. -/
theorem key_of_run_sortValues {rule : SortRule} {values : List (String × Value)}
    (ran : (sortValues table uris rule).run database = .ok values) {uri : String}
    (listed : uri ∈ uris) (place position : Nat) :
    key place position uri rule values = rule.keyOf ⟨uri, records, place, position⟩ := by
  unfold key SortRule.keyOf
  unfold sortValues at ran
  cases mode : rule.mode with
  | indexOrder => rfl
  | uri => rfl
  | timestamp =>
    simp only [mode] at ran
    exact congrArg HitKey.value
      (Loading.last_of_run_timestampValues present distinct listed ran)
  | property name =>
    simp only [mode] at ran
    exact congrArg HitKey.value
      (Loading.last_of_run_propertyValues present distinct listed ran)

theorem keys_of_run_sortColumns {rules : List SortRule}
    {columns : List (SortRule × List (String × Value))}
    (ran : (sortColumns table uris rules).run database = .ok columns) {uri : String}
    (listed : uri ∈ uris) (place position : Nat) :
    (columns.map fun (rule, values) => key place position uri rule values) =
      rules.map (·.keyOf ⟨uri, records, place, position⟩) := by
  induction rules generalizing columns with
  | nil =>
    obtain rfl := Except.ok.inj ran
    rfl
  | cons rule rest ih =>
    rw [sortColumns, run_bind] at ran
    obtain ⟨values, first, ran⟩ := bind_eq_ok.1 ran
    rw [run_bind] at ran
    obtain ⟨others, later, ran⟩ := bind_eq_ok.1 ran
    obtain rfl := Except.ok.inj ran
    rw [List.map_cons, List.map_cons, ih later]
    exact congrArg (· :: _) (key_of_run_sortValues present distinct first listed place position)

/-- The hits of a segment are its matches. -/
theorem hits_of_run_rank {rules : List SortRule} {place : Nat} {hits : List Hit}
    (ran : (rank table place rules uris).run database = .ok hits) :
    hits = (Match.ofUris records place uris).map (Match.hit rules) := by
  rw [rank, run_bind] at ran
  obtain ⟨columns, sorted, ran⟩ := bind_eq_ok.1 ran
  obtain rfl := Except.ok.inj ran
  rw [Match.ofUris, List.map_map]
  apply List.map_congr_left
  intro entry listed
  obtain ⟨uri, position⟩ := entry
  have member : uri ∈ uris := List.fst_mem_of_mem_zipIdx listed
  exact congrArg (Hit.mk uri place · .zero)
    (keys_of_run_sortColumns present distinct sorted member place position)

end Rank

variable (scope : SearchScope) (database : Database)

/-- What the table of a segment holds. -/
def held (segment : Segment) : List Record :=
  database.held (TableName.ofUri scope.settings.tablesStart segment.uri)

/-- The matches of a segment at its place in a query. -/
def matched (criteria : Container) (part : Segment × Nat) : Except Error (List Match) :=
  (scope.found database criteria part.1).map (Match.ofUris (scope.held database part.1) part.2)

/-- The URIs of all objects that match a query, in the order that its sort keys ask for. -/
def Lists (query : Query) (listing : List String) : Prop :=
  ∃ criteria, query.criteria.normalize scope.registry = .ok criteria ∧
  ∃ rules, SortRule.ofKeys scope.registry query.sort = .ok rules ∧
  ∃ found, query.segments.zipIdx.mapM (scope.matched database criteria) = .ok found ∧
  ∃ ordered : List Match, ordered.Perm found.flatten ∧
    (ordered.Pairwise fun a b => (Match.order rules a b).isLE) ∧ ordered.map (·.uri) = listing

variable {scope database} {criteria : Container}

theorem isWithin_of_found {segment : Segment} {found : UriSet}
    (searched : scope.found database criteria segment = .ok found) :
    found.IsWithin (scope.held database segment) :=
  (@SegmentScope.agree_search (scope.segment segment 0) database 0 _ _).2 found searched

/-- A table that holds something is there. -/
theorem recordsOf_of_held {segment : Segment} {record : Record}
    (member : record ∈ scope.held database segment) :
    database.recordsOf (TableName.ofUri scope.settings.tablesStart segment.uri) =
      .ok (scope.held database segment) := by
  unfold held Database.held at member ⊢
  cases there : database.recordsOf (TableName.ofUri scope.settings.tablesStart segment.uri) with
  | error error =>
    rw [there] at member
    cases member
  | ok records => rfl

/-- The hits of a segment are its matches. -/
theorem matched_of_hits {rules : List SortRule} {part : Segment × Nat} {hits : List Hit}
    (ranked : scope.hits database criteria rules part = .ok hits) :
    ∃ found, scope.matched database criteria part = .ok found ∧
      hits = found.map (Match.hit rules) := by
  obtain ⟨found, searched, ranked⟩ := bind_eq_ok.1 ranked
  refine ⟨_, by rw [matched, searched]; rfl, ?_⟩
  have within := isWithin_of_found searched
  cases found with
  | nil =>
    obtain rfl := Except.ok.inj ranked
    rfl
  | cons first rest =>
    obtain ⟨record, member, -⟩ := within.known first List.mem_cons_self
    exact hits_of_run_rank (recordsOf_of_held member) within.ascending.nodup ranked

theorem matched_of_hitsAll {rules : List SortRule} {parts : List (Segment × Nat)}
    {hits : List (List Hit)} (ranked : parts.mapM (scope.hits database criteria rules) = .ok hits) :
    ∃ found, parts.mapM (scope.matched database criteria) = .ok found ∧
      hits.flatten = found.flatten.map (Match.hit rules) := by
  induction parts generalizing hits with
  | nil =>
    obtain rfl := Except.ok.inj ranked
    exact ⟨[], rfl, rfl⟩
  | cons part rest ih =>
    rw [List.mapM_cons] at ranked
    obtain ⟨first, here, ranked⟩ := bind_eq_ok.1 ranked
    obtain ⟨others, later, joined⟩ := bind_eq_ok.1 ranked
    obtain rfl := Except.ok.inj joined
    obtain ⟨found, searched, rfl⟩ := matched_of_hits here
    obtain ⟨founds, searchedAll, same⟩ := ih later
    refine ⟨found :: founds, by rw [List.mapM_cons, searched, ok_bind, searchedAll]; rfl, ?_⟩
    rw [List.flatten_cons, List.flatten_cons, List.map_append, same]

/-- A match is an object of the table of its segment. -/
theorem exists_part_of_matched {query : Query} {found : List (List Match)}
    (searched : query.segments.zipIdx.mapM (scope.matched database criteria) = .ok found)
    {one : Match} (listed : one ∈ found.flatten) :
    ∃ part ∈ query.segments.zipIdx, one.segment = part.2 ∧
      one.records = scope.held database part.1 ∧ ∃ record ∈ one.records, record.uri = one.uri := by
  obtain ⟨own, member, listed⟩ := List.mem_flatten.1 listed
  obtain ⟨part, isPart, matched⟩ := exists_of_mem_mapM searched member
  obtain ⟨uris, searched, rfl⟩ := map_eq_ok.1 matched
  obtain ⟨entry, inside, rfl⟩ := List.mem_map.1 listed
  exact ⟨part, isPart, rfl, rfl,
    (isWithin_of_found searched).known _ (List.fst_mem_of_mem_zipIdx inside)⟩

/-- Where broken objects are refused, a segment gives the objects of all its hits on a page. -/
theorem exists_object_of_loaded (strict : scope.settings.read.ignoreBroken = false)
    {page : List Hit} {part : Segment × Nat} {objects : List GraphObject}
    (load : scope.loaded database page part = .ok objects) {hit : Hit} (onPage : hit ∈ page)
    (here : hit.segment = part.2)
    (known : ∃ record ∈ scope.held database part.1, record.uri = hit.uri) :
    ∃ object ∈ objects, object.uri = hit.uri := by
  have own : hit.uri ∈ (page.filter (·.segment == part.2)).map (·.uri) :=
    List.mem_map_of_mem (List.mem_filter.2 ⟨onPage, beq_iff_eq.2 here⟩)
  have some : ((page.filter (·.segment == part.2)).map (·.uri)).isEmpty = false := by
    simpa using List.ne_nil_of_mem own
  obtain ⟨record, member, -⟩ := id known
  rw [loaded, some] at load
  exact Loading.exists_object_of_run_objects (recordsOf_of_held member) strict load
    (List.mem_mergeSort.2 own) known

/-- Unsorted, the only match of a segment is a hit without keys. -/
theorem hits_singleton {segment : Segment} {uri : String}
    (found : scope.found database criteria segment = .ok [uri]) (place : Nat) :
    scope.hits database criteria [] (segment, place) = .ok [⟨uri, place, [], .zero⟩] := by
  rw [hits, found]
  rfl

/-- A segment of which one object without long texts is on a page gives this object. -/
theorem loaded_singleton {page : List Hit} {part : Segment × Nat} {uri : String} {rows : List Row}
    {object : GraphObject} (own : (page.filter (·.segment == part.2)).map (·.uri) = [uri])
    (rowsRead : (database.recordsOf (TableName.ofUri scope.settings.tablesStart part.1.uri) >>=
      fun records => Record.toRows false (records.filter (·.uri == uri))) = .ok rows)
    (batch : DecodedObject.ofBatch scope.registry
      { scope.settings.read with overflow := .deferred } rows = .ok [⟨object, []⟩]) :
    scope.loaded database page part = .ok [object] := by
  obtain ⟨records, present, rowsRead⟩ := bind_eq_ok.1 rowsRead
  rw [loaded, own, if_neg (by simp), List.mergeSort_singleton]
  exact Loading.run_objects_singleton present rowsRead batch

/-- The page of all hits is the page of all matches in order. -/
theorem exists_ordered {query : Query} {rules : List SortRule} {hits : List (List Hit)}
    (ranked : query.segments.zipIdx.mapM (scope.hits database criteria rules) = .ok hits) :
    ∃ found, query.segments.zipIdx.mapM (scope.matched database criteria) = .ok found ∧
    ∃ ordered : List Match, ordered.Perm found.flatten ∧
      (ordered.Pairwise fun a b => (Match.order rules a b).isLE) ∧
      hits.flatten.length = ordered.length ∧
      Hit.page query rules hits.flatten =
        ((ordered.drop query.offset).take query.effectiveLimit).map (Match.hit rules) := by
  obtain ⟨found, searched, same⟩ := matched_of_hitsAll ranked
  obtain ⟨ordered, inTurn, perm, inOrder⟩ := Match.exists_sorted rules found.flatten
  refine ⟨found, searched, ordered, perm, inOrder, ?_, ?_⟩
  · rw [same, List.length_map, perm.length_eq]
  · rw [Hit.page, same, inTurn, List.map_take, List.map_drop]

/-- Where broken objects are refused, the answer to a query for objects has a page of its listing,
in which each object is left out after the first time. -/
theorem page_of_answer {query : Query} (plain : query.IsPlain)
    (strict : scope.settings.read.ignoreBroken = false) {result : ResultList}
    (ran : (scope.answer query).run database = .ok result) :
    ∃ listing, scope.Lists database query listing ∧ result.total = listing.length ∧
      result.uris = ((listing.drop query.offset).take query.effectiveLimit).eraseDups := by
  obtain ⟨-, criteria, normalized, rules, sorted, hits, ranked, founds, loaded, rfl⟩ :=
    (run_answer_eq_ok plain).1 ran
  obtain ⟨found, searched, ordered, perm, inOrder, length, page⟩ := exists_ordered ranked
  have uris : (Hit.page query rules hits.flatten).map (·.uri) =
      ((ordered.map (·.uri)).drop query.offset).take query.effectiveLimit := by
    rw [page, Match.map_uri_slice]
  refine ⟨_, ⟨criteria, normalized, rules, sorted, found, searched, ordered, perm, inOrder, rfl⟩,
    by rw [List.length_map]; exact length, ?_⟩
  change (Loading.deliver _ _).map _ = _
  rw [Loading.uris_deliver, ← uris, List.filter_eq_self.2]
  intro uri listed
  obtain ⟨hit, onPage, rfl⟩ := List.mem_map.1 listed
  obtain ⟨one, chosen, rfl⟩ := List.mem_map.1 (page ▸ onPage)
  obtain ⟨part, isPart, place, records, held⟩ := exists_part_of_matched searched
    (perm.mem_iff.1 (List.mem_of_mem_drop (List.mem_of_mem_take chosen)))
  obtain ⟨objects, isFound, load⟩ := exists_of_mapM loaded isPart
  obtain ⟨object, loadedObject, mine⟩ :=
    exists_object_of_loaded strict load onPage place (records ▸ held)
  refine List.any_eq_true.2 ⟨object, List.mem_flatten.2 ⟨objects.reverse, ?_, ?_⟩, ?_⟩
  · exact List.mem_reverse.2 (List.mem_map_of_mem isFound)
  · exact List.mem_reverse.2 loadedObject
  · exact beq_iff_eq.2 mine

end SearchScope

end GraphSegments
