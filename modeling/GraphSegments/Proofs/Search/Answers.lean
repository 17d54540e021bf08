import GraphSegments.Proofs.Search.Placement
import GraphSegments.Proofs.Search.Ranking
import GraphSegments.Proofs.Search.Transcripts
import GraphSegments.Search.Answer

/-!
Answering a query for objects: each segment gives its hits, the page is cut from all of them in
order, and each segment gives the objects of its hits on the page.
-/

namespace GraphSegments
open Results Dialogue

/-- A query for objects, not for a number, the different values of a property, or a count alone. -/
structure Query.IsPlain (query : Query) : Prop where
  aggregation : query.aggregation = none
  distinct : query.distinct = none
  projectionOnly : query.projectionOnly = false

/-! What is fetched is asked for by statements, so that no place matters. -/

section Fetched

variable {tables : Nat → String} {α : Type}

theorem Dialogue.places_take (label : String) (text : NoteText) :
    Places tables (take label text) := trivial

namespace Fetching

theorem places_forUris {uris : List String} {fetch : List String → Dialogue (List α)}
    (each : ∀ part, Places tables (fetch part)) : Places tables (forUris uris fetch) := by
  unfold forUris
  generalize Statement.chunks Statement.uriBatch uris = parts
  induction parts with
  | nil => exact trivial
  | cons part rest ih => exact .bind (each part) fun _ => .bind ih fun _ => trivial

theorem places_askRows (withFullText : Bool) (select : Select) :
    Places tables (askRows withFullText select) := fun _ => places_ofExcept _

theorem places_rows (table : String) (uris : List String) (withFullText : Bool) :
    Places tables (rows table uris withFullText) :=
  .bind (places_forUris fun _ => places_askRows _ _) fun _ => trivial

theorem places_fullTexts (table : String) (uris : List String) :
    Places tables (fullTexts table uris) :=
  places_forUris fun _ _ => places_ofExcept _

theorem places_timestamps (table : String) (uris : List String) :
    Places tables (timestamps table uris) :=
  places_forUris fun _ _ => places_ofExcept _

end Fetching

namespace Loading

theorem places_propertyValues (table name : String) (uris : List String) :
    Places tables (propertyValues table name uris) :=
  .bind (Fetching.places_forUris fun _ => Fetching.places_askRows _ _) fun _ => places_ofExcept _

theorem places_timestampValues (table : String) (uris : List String) :
    Places tables (timestampValues table uris) :=
  .bind (Fetching.places_timestamps _ _) fun _ => trivial

theorem places_objects (registry : Registry) (read : ReadOptions) (table : String)
    (uris : List String) : Places tables (objects registry read table uris) := by
  refine .bind (Fetching.places_rows _ _ _) fun rows => .bind (places_take _ _) fun _ =>
    .bind (places_ofExcept _) fun decoded => ?_
  dsimp only
  split
  next => exact places_ofExcept _
  next => exact .bind (Fetching.places_fullTexts _ _) fun _ => places_ofExcept _

theorem places_pageObjects (registry : Registry) (read : ReadOptions) (tablesStart : String)
    (page : List Hit) (known : List GraphObject) (parts : List (Segment × Nat)) :
    Places tables (pageObjects registry read tablesStart page known parts) := by
  induction parts generalizing known with
  | nil => exact trivial
  | cons part rest ih =>
    unfold pageObjects
    dsimp only
    split
    next => exact ih known
    next => exact .bind (places_objects _ _ _ _) fun _ => ih _

end Loading

namespace SearchScope

theorem places_rank (table : String) (place : Nat) (rules : List SortRule) (uris : List String) :
    Places tables (rank table place rules uris) := by
  refine .bind ?_ fun _ => trivial
  induction rules with
  | nil => exact trivial
  | cons rule rest ih =>
    refine .bind ?_ fun _ => .bind ih fun _ => trivial
    unfold sortValues
    split
    · exact Loading.places_propertyValues _ _ _
    · exact Loading.places_timestampValues _ _
    · exact trivial
    · exact trivial

theorem places_gather (query : Query) (rules : List SortRule) (table : String) (place : Nat)
    (uris : List String) (tally : Tally) :
    Places tables (gather query rules table place uris tally) := by
  unfold gather
  split
  · split
    · exact trivial
    · exact .bind (Loading.places_propertyValues _ _ _) fun _ => trivial
  · split
    · exact .bind (Loading.places_propertyValues _ _ _) fun _ => trivial
    · split
      · exact trivial
      · exact .bind (places_rank _ _ _ _) fun _ => trivial

variable {scope : SearchScope}

theorem places_searchAll (query : Query) (criteria : Container) (rules : List SortRule)
    (tally : Tally) {parts : List (Segment × Nat)}
    (here : ∀ part ∈ parts, (scope.segment part.1 part.2).table = tables part.2) :
    Places tables (scope.searchAll query criteria rules tally parts) := by
  induction parts generalizing tally with
  | nil => exact trivial
  | cons part rest ih =>
    obtain ⟨first, later⟩ := List.forall_mem_cons.1 here
    refine .bind (SegmentScope.places_search first _ _) fun matched => ?_
    dsimp only
    split
    next => exact .bind (places_pure _) fun _ => ih _ later
    next => exact .bind (places_gather _ _ _ _ _ _) fun _ => ih _ later

theorem places_conclude (query : Query) (tally : Tally) :
    Places tables (scope.conclude query tally) := by
  unfold conclude
  dsimp only
  split
  · exact trivial
  · exact trivial
  · split
    · exact trivial
    · exact .bind (Loading.places_pageObjects _ _ _ _ _ _) fun _ => trivial

/-- The transcript of an answer with a database ends with what the answer comes to. -/
theorem outcome_answer (scope : SearchScope) (query : Query) (database : Database) :
    ((scope.answer query).transcript (.ofDatabase database) 0 []).outcome =
      (scope.answer query).run database := by
  let tables (place : Nat) : String := (query.segments[place]?.map fun segment =>
    TableName.ofUri scope.settings.tablesStart segment.uri).getD ""
  refine outcome_transcript database tables _ 0 [] (by simp [Remembers]) ?_
  refine .bind (places_ofExcept _) fun _ => .bind (places_ofExcept _) fun criteria =>
    .bind (places_ofExcept _) fun rules => .bind ?_ fun tally => places_conclude query tally
  refine places_searchAll query criteria rules _ fun part listed => ?_
  have there := List.mem_zipIdx_iff_getElem?.1 listed
  simp [tables, there, segment]

end SearchScope

end Fetched

/-- Objects are handed out in the order of the hits, each of those that are there once. -/
theorem Loading.uris_deliver (objects : List GraphObject) (page : List Hit) :
    (deliver objects page).map (·.object.uri) =
      ((page.map (·.uri)).filter fun uri => objects.any (·.uri == uri)).eraseDups := by
  induction page generalizing objects with
  | nil => rfl
  | cons hit rest ih =>
    rw [deliver, List.map_cons]
    cases there : objects.find? (·.uri == hit.uri) with
    | none =>
      have missing : objects.any (·.uri == hit.uri) = false := by
        simpa using List.find?_eq_none.1 there
      rw [List.filter_cons_of_neg (by simp [missing]), ih]
    | some object =>
      have same : object.uri = hit.uri := by simpa using List.find?_some there
      have held : objects.any (·.uri == hit.uri) = true :=
        List.any_eq_true.2 ⟨object, List.mem_of_find?_eq_some there, by simp [same]⟩
      have left (uri : String) : (objects.filter (·.uri != hit.uri)).any (·.uri == uri) =
          (!uri == hit.uri && objects.any (·.uri == uri)) := by
        rw [Bool.eq_iff_iff]
        by_cases mine : uri = hit.uri
        · simp [mine]
        · simp only [List.any_eq_true, List.mem_filter, bne_iff_ne, beq_iff_eq, Bool.and_eq_true,
            Bool.not_eq_true', beq_eq_false_iff_ne, ne_eq, mine, not_false_eq_true, true_and]
          constructor
          · intro other
            obtain ⟨object, ⟨listed, -⟩, rfl⟩ := other
            exact ⟨object, listed, rfl⟩
          · intro other
            obtain ⟨object, listed, rfl⟩ := other
            exact ⟨object, ⟨listed, mine⟩, rfl⟩
      dsimp only
      rw [List.filter_cons, if_pos held, List.eraseDups_cons, List.filter_filter, List.map_cons, ih,
        funext left, same]

/-! What a query for objects comes to. -/

namespace Hit

/-- The hits of a page. -/
def page (query : Query) (rules : List SortRule) (hits : List Hit) : List Hit :=
  ((sorted (rules.map (·.reverse)) hits).drop query.offset).take query.effectiveLimit

end Hit

namespace SearchScope

variable (scope : SearchScope) (database : Database)

/-- The objects of a segment that match. -/
def found (criteria : Container) (segment : Segment) : Except Error UriSet :=
  ((scope.segment segment 0).search scope.settings.mode criteria).run database

/-- The hits of a segment at its place in the query. -/
def hits (criteria : Container) (rules : List SortRule) (part : Segment × Nat) :
    Except Error (List Hit) := do
  let matched ← scope.found database criteria part.1
  if matched.isEmpty then return []
  else (rank (scope.segment part.1 part.2).table part.2 rules matched).run database

/-- The objects of the hits that a segment has on a page. -/
def loaded (page : List Hit) (part : Segment × Nat) : Except Error (List GraphObject) :=
  let uris := (page.filter (·.segment == part.2)).map (·.uri)
  if uris.isEmpty then .ok []
  else
    (Loading.objects scope.registry scope.settings.read
      (TableName.ofUri scope.settings.tablesStart part.1.uri) uris.mergeSort).run database

theorem run_search_segment (criteria : Container) (segment : Segment) (place : Nat) :
    ((scope.segment segment place).search scope.settings.mode criteria).run database =
      scope.found database criteria segment :=
  (@SegmentScope.agree_search (scope.segment segment 0) database place _ _).1.symm

variable {scope database}

/-- The hits of a segment are as many as its matches. -/
theorem length_of_run_rank {table : String} {place : Nat} {rules : List SortRule}
    {uris : List String} {hits : List Hit}
    (ran : (rank table place rules uris).run database = .ok hits) : hits.length = uris.length := by
  rw [rank, run_bind] at ran
  obtain ⟨columns, -, ran⟩ := bind_eq_ok.1 ran
  obtain rfl := Except.ok.inj ran
  rw [List.length_map, List.length_zipIdx]

theorem run_searchAll {query : Query} (plain : query.IsPlain) (criteria : Container)
    (rules : List SortRule) (tally : Tally) (parts : List (Segment × Nat)) :
    (scope.searchAll query criteria rules tally parts).run database =
      (parts.mapM (scope.hits database criteria rules)).map fun hits =>
        { tally with
          total := tally.total + hits.flatten.length
          buffer := tally.buffer.pushAll hits.flatten } := by
  induction parts generalizing tally with
  | nil => rfl
  | cons part rest ih =>
    rw [searchAll, run_bind, run_search_segment, List.mapM_cons, hits, bind_assoc]
    cases searched : scope.found database criteria part.1 with
    | error error => rfl
    | ok matched =>
      rw [ok_bind, ok_bind]
      dsimp only
      have joined (first : List Hit) (length : first.length = matched.length) :
          (rest.mapM (scope.hits database criteria rules)).map (fun hits => { tally with
            total := tally.total + matched.length + hits.flatten.length
            buffer := (tally.buffer.pushAll first).pushAll hits.flatten }) =
          (do
            let others ← rest.mapM (scope.hits database criteria rules)
            return first :: others : Except Error (List (List Hit))).map fun hits => { tally with
              total := tally.total + hits.flatten.length
              buffer := tally.buffer.pushAll hits.flatten } := by
        cases rest.mapM (scope.hits database criteria rules) with
        | error error => rfl
        | ok others =>
          simp [Except.map, pure, Except.pure, length, Nat.add_assoc, RankBuffer.pushAll]
      by_cases empty : matched.isEmpty = true
      · obtain rfl := List.isEmpty_iff.1 empty
        rw [if_pos empty, if_pos empty, run_bind, run_pure, ok_bind, ih]
        exact joined [] rfl
      · rw [if_neg empty, if_neg empty, run_bind, gather, plain.aggregation]
        simp only [plain.distinct, plain.projectionOnly, Bool.false_eq_true, if_false, run_bind]
        cases ran : (rank (scope.segment part.1 part.2).table part.2 rules matched).run database with
        | error error => rfl
        | ok first =>
          rw [ok_bind, run_pure, ok_bind, ih]
          exact joined first (length_of_run_rank ran)

theorem run_pageObjects (page : List Hit) (known : List GraphObject)
    (parts : List (Segment × Nat)) :
    (Loading.pageObjects scope.registry scope.settings.read scope.settings.tablesStart page known
      parts).run database =
      (parts.mapM (scope.loaded database page)).map fun founds =>
        (founds.map List.reverse).reverse.flatten ++ known := by
  induction parts generalizing known with
  | nil => rfl
  | cons part rest ih =>
    rw [Loading.pageObjects, List.mapM_cons, loaded]
    dsimp only
    have joined (first : List GraphObject) :
        (rest.mapM (scope.loaded database page)).map (fun founds =>
          (founds.map List.reverse).reverse.flatten ++ (first.reverse ++ known)) =
        (do
          let others ← rest.mapM (scope.loaded database page)
          return first :: others : Except Error (List (List GraphObject))).map fun founds =>
            (founds.map List.reverse).reverse.flatten ++ known := by
      cases rest.mapM (scope.loaded database page) with
      | error error => rfl
      | ok others => simp [Except.map, pure, Except.pure]
    split
    next =>
      rw [ih, ok_bind]
      exact joined []
    next =>
      rw [run_bind]
      cases (Loading.objects scope.registry scope.settings.read
        (TableName.ofUri scope.settings.tablesStart part.1.uri) _).run database with
      | error error => rfl
      | ok first =>
        rw [ok_bind, ok_bind, ih]
        exact joined first

theorem run_conclude {query : Query} (plain : query.IsPlain) (tally : Tally) :
    (scope.conclude query tally).run database =
      (query.segments.zipIdx.mapM
        (scope.loaded database (tally.buffer.hits.drop query.offset))).map fun founds => {
          results := Loading.deliver (founds.map List.reverse).reverse.flatten
            (tally.buffer.hits.drop query.offset)
          total := tally.total
          offset := query.offset
          limit := query.effectiveLimit
          distinctValues := none
          aggregation := none
          stats := none } := by
  rw [conclude, plain.aggregation, plain.distinct]
  simp only [plain.projectionOnly, Bool.false_eq_true, if_false, run_bind, run_pageObjects,
    List.append_nil]
  cases List.mapM (m := Except Error) _ query.segments.zipIdx <;> rfl

/-- A query for objects is answered exactly if it makes sense, every segment gives its hits, and
every segment gives the objects that it has on the page. -/
theorem run_answer_eq_ok {query : Query} (plain : query.IsPlain) {result : ResultList} :
    (scope.answer query).run database = .ok result ↔
      query.validate = .ok () ∧
      ∃ criteria, query.criteria.normalize scope.registry = .ok criteria ∧
      ∃ rules, SortRule.ofKeys scope.registry query.sort = .ok rules ∧
      ∃ hits, query.segments.zipIdx.mapM (scope.hits database criteria rules) = .ok hits ∧
      ∃ founds, query.segments.zipIdx.mapM
          (scope.loaded database (Hit.page query rules hits.flatten)) = .ok founds ∧
        result = {
          results := Loading.deliver (founds.map List.reverse).reverse.flatten
            (Hit.page query rules hits.flatten)
          total := hits.flatten.length
          offset := query.offset
          limit := query.effectiveLimit
          distinctValues := none
          aggregation := none
          stats := none } := by
  rw [answer, run_bind, run_ofExcept]
  constructor
  · intro ran
    obtain ⟨⟨⟩, valid, ran⟩ := bind_eq_ok.1 ran
    rw [run_bind, run_ofExcept] at ran
    obtain ⟨criteria, normalized, ran⟩ := bind_eq_ok.1 ran
    rw [run_bind, run_ofExcept] at ran
    obtain ⟨rules, sorted, ran⟩ := bind_eq_ok.1 ran
    rw [run_bind, run_searchAll plain] at ran
    obtain ⟨tally, searched, ran⟩ := bind_eq_ok.1 ran
    obtain ⟨hits, all, rfl⟩ := map_eq_ok.1 searched
    rw [run_conclude plain, RankBuffer.drop_hits_pushAll, Nat.zero_add] at ran
    obtain ⟨founds, loaded, rfl⟩ := map_eq_ok.1 ran
    exact ⟨valid, criteria, normalized, rules, sorted, hits, all, founds, loaded, rfl⟩
  · intro steps
    obtain ⟨valid, criteria, normalized, rules, sorted, hits, all, founds, loaded, rfl⟩ := steps
    rw [valid, ok_bind, run_bind, run_ofExcept, normalized, ok_bind, run_bind, run_ofExcept, sorted,
      ok_bind, run_bind, run_searchAll plain, all]
    change (scope.conclude query _).run database = _
    rw [run_conclude plain, RankBuffer.drop_hits_pushAll, map_eq_ok]
    exact ⟨founds, loaded, by simp [Hit.page]⟩

end SearchScope

end GraphSegments
