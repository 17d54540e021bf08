import GraphSegments.Proofs.Search.SetAlgebra

/-!
Where a segment stands in a query makes no difference to its search, which asks the same and comes
to the same. Whatever else it does, with probes and folds or without, a search finds objects that
the table of its segment has, in ascending order.
-/

namespace GraphSegments
open Results Dialogue

/-- The records that a table holds, if there is such a table. -/
def Database.held (database : Database) (table : String) : List Record :=
  (database.recordsOf table).toOption.getD []

theorem Database.held_of_recordsOf {database : Database} {table : String} {records : List Record}
    (present : database.recordsOf table = .ok records) : database.held table = records := by
  rw [held, present]
  rfl

namespace UriSet

/-- A set of objects of a table. -/
structure IsWithin (records : List Record) (found : UriSet) : Prop where
  ascending : IsAscending found
  known : ∀ uri ∈ found, ∃ record ∈ records, record.uri = uri

variable {records : List Record} {a b : UriSet}

theorem isWithin_nil (records : List Record) : IsWithin records [] := ⟨ascending_nil, by simp⟩

theorem isWithin_ofList {uris : List String}
    (known : ∀ uri ∈ uris, ∃ record ∈ records, record.uri = uri) :
    IsWithin records (ofList uris) :=
  ⟨ascending_ofList uris, fun uri listed => known uri (mem_ofList.1 listed)⟩

theorem IsWithin.inter (within : IsWithin records a) (b : UriSet) : IsWithin records (inter a b) :=
  ⟨within.ascending.inter b, fun uri listed => within.known uri (mem_inter.1 listed).1⟩

theorem IsWithin.diff (within : IsWithin records a) (b : UriSet) : IsWithin records (diff a b) :=
  ⟨within.ascending.diff b, fun uri listed => within.known uri (mem_diff.1 listed).1⟩

theorem IsWithin.union (left : IsWithin records a) (right : IsWithin records b) :
    IsWithin records (union a b) :=
  ⟨ascending_union a b, fun uri listed =>
    (mem_union.1 listed).elim (left.known uri) (right.known uri)⟩

theorem IsWithin.narrow {matched : Option UriSet} (within : ∀ a ∈ matched, IsWithin records a)
    (found : IsWithin records b) : IsWithin records (SegmentScope.narrow matched b) := by
  cases matched with
  | none => exact found
  | some a => exact (within a rfl).inter b

end UriSet

open UriSet

namespace Dialogue

variable {α β : Type} {database : Database}

/-- Two dialogues come to the same with a database, to something of which a property holds. -/
def Agree (database : Database) (p : α → Prop) (left right : Dialogue α) : Prop :=
  left.run database = right.run database ∧ ∀ value, left.run database = .ok value → p value

theorem agree_self {p : α → Prop} {dialogue : Dialogue α}
    (holds : ∀ value, dialogue.run database = .ok value → p value) :
    Agree database p dialogue dialogue := ⟨rfl, holds⟩

theorem agree_done {p : α → Prop} {value : α} (holds : p value) :
    Agree database p (done value) (done value) :=
  agree_self fun _ ran => Except.ok.inj ran ▸ holds

theorem agree_pure {p : α → Prop} {value : α} (holds : p value) :
    Agree database p (pure value) (pure value) := agree_done holds

theorem agree_same (dialogue : Dialogue α) : Agree database (fun _ => True) dialogue dialogue :=
  agree_self fun _ _ => trivial

theorem Agree.bind {p : α → Prop} {q : β → Prop} {left right : Dialogue α}
    {next other : α → Dialogue β} (first : Agree database p left right)
    (later : ∀ value, p value → Agree database q (next value) (other value)) :
    Agree database q (left >>= next) (right >>= other) := by
  obtain ⟨same, holds⟩ := first
  unfold Agree
  rw [run_bind, run_bind, ← same]
  cases ran : left.run database with
  | error error => exact ⟨rfl, fun value failed => nomatch failed⟩
  | ok value => exact later value (holds value ran)

end Dialogue

namespace SegmentScope

/-- The same search at another place of the query. -/
def placedAt (scope : SegmentScope) (place : Nat) : SegmentScope := { scope with place := place }

/-- All that has matched so far is of the table. -/
def Progress.IsWithin (records : List Record) : Progress → Prop
  | .exhausted => True
  | .open matched _ _ => ∀ found ∈ matched, UriSet.IsWithin records found

variable {scope : SegmentScope} {database : Database} {place : Nat}

theorem known_of_run_ask {label table : String} {condition : Condition} {found : List String}
    (ran : (ask label (.objects table condition)).run database = .ok found) :
    ∀ uri ∈ found, ∃ record ∈ database.held table, record.uri = uri := by
  rw [ask, run_bind, run_askUris] at ran
  obtain ⟨answer, asked, ran⟩ := bind_eq_ok.1 ran
  obtain rfl : answer = found := Except.ok.inj ran
  obtain ⟨records, present, rfl⟩ := map_eq_ok.1 asked
  intro uri listed
  obtain ⟨record, member, same, -⟩ := Select.mem_uris_objects.1 listed
  exact ⟨record, Database.held_of_recordsOf present ▸ member, same⟩

theorem agree_leaf (fold : Option Fold) (criterion : Criterion) :
    Agree database (IsWithin (database.held scope.table)) (scope.leaf fold criterion)
      ((scope.placedAt place).leaf fold criterion) := by
  refine .bind (agree_same _) fun condition _ => .bind (agree_self fun _ => known_of_run_ask) ?_
  exact fun found known => agree_pure (isWithin_ofList known)

theorem agree_every :
    Agree database (IsWithin (database.held scope.table)) scope.every
      (scope.placedAt place).every := by
  refine .bind (p := fun found => ∀ uri ∈ found,
    ∃ record ∈ database.held scope.table, record.uri = uri) ⟨?_, fun found ran => ?_⟩
      fun found known => agree_pure (isWithin_ofList known)
  · rw [run_askEvery, run_askEvery]
    rfl
  · rw [run_askEvery] at ran
    obtain ⟨records, present, rfl⟩ := map_eq_ok.1 ran
    rw [Database.held_of_recordsOf present]
    exact fun uri => Select.mem_uris_everyObject.1

theorem agree_exclude {matched : UriSet} (within : IsWithin (database.held scope.table) matched)
    (excluding : List Criterion) :
    Agree database (IsWithin (database.held scope.table)) (scope.exclude matched excluding)
      ((scope.placedAt place).exclude matched excluding) := by
  induction excluding generalizing matched with
  | nil => exact agree_done within
  | cons criterion rest ih =>
    unfold exclude
    split
    next => exact agree_pure within
    next => exact .bind (agree_leaf none criterion) fun excluded _ => ih (within.diff excluded)

theorem agree_matchFold (fold : Fold) {matched : Option UriSet}
    (within : ∀ found ∈ matched, IsWithin (database.held scope.table) found) :
    Agree database (IsWithin (database.held scope.table)) (scope.matchFold fold matched)
      ((scope.placedAt place).matchFold fold matched) := by
  refine .bind (agree_self fun _ => known_of_run_ask) fun found known => ?_
  cases matched with
  | none => exact agree_pure (isWithin_ofList known)
  | some matched => exact agree_pure ((within matched rfl).inter _)

theorem agree_conclude (fold : Option Fold) {progress : Progress}
    (within : progress.IsWithin (database.held scope.table)) :
    Agree database (IsWithin (database.held scope.table)) (scope.conclude fold progress)
      ((scope.placedAt place).conclude fold progress) := by
  cases progress with
  | exhausted => exact agree_done (isWithin_nil _)
  | «open» matched excluding applied =>
    match fold, applied, matched with
    | some used, false, matched =>
      exact .bind (agree_matchFold used within) fun _ => (agree_exclude · excluding)
    | some used, true, some kept | none, _, some kept =>
      exact .bind (agree_pure (within kept rfl)) fun _ => (agree_exclude · excluding)
    | some used, true, none | none, _, none =>
      exact .bind agree_every fun _ => (agree_exclude · excluding)

theorem probeEach_placedAt (criteria : List Criterion) :
    (scope.placedAt place).probeEach criteria = scope.probeEach criteria := by
  induction criteria with
  | nil => rfl
  | cons criterion rest ih =>
    rw [probeEach, probeEach, ih]
    rfl

theorem probe_placedAt (container : Container) :
    (scope.placedAt place).probe container = scope.probe container := by
  rw [probe, probe, probeEach_placedAt]
  rfl

theorem agree_conjunction (elements : List Element)
    {search other : Option Fold → Dialogue Progress}
    (inner : ∀ fold, Agree database (Progress.IsWithin (database.held scope.table)) (search fold)
      (other fold)) :
    Agree database (IsWithin (database.held scope.table)) (scope.conjunction elements search)
      ((scope.placedAt place).conjunction elements other) := by
  unfold conjunction
  rw [probe_placedAt]
  refine .bind (agree_same _) fun wanted _ => ?_
  split
  next =>
    refine .bind (agree_same _) fun fold _ => ?_
    split
    next => exact agree_pure (isWithin_nil _)
    next => exact .bind (inner fold) fun progress => agree_conclude fold
  next => exact agree_pure (isWithin_nil _)

theorem agree_searchSets_of {connective : Connective} {elements : List Element}
    (every : ∀ fold, Agree database (Progress.IsWithin (database.held scope.table))
      (Element.searchAnd scope fold 0 none [] false elements)
      (Element.searchAnd (scope.placedAt place) fold 0 none [] false elements))
    (some : Agree database (IsWithin (database.held scope.table))
      (Element.searchOr scope [] elements)
      (Element.searchOr (scope.placedAt place) [] elements)) :
    Agree database (IsWithin (database.held scope.table))
      (scope.searchSets ⟨connective, elements⟩)
      ((scope.placedAt place).searchSets ⟨connective, elements⟩) := by
  match connective, elements with
  | .and, [] => exact agree_every
  | .or, [] => exact agree_done (isWithin_nil _)
  | .and, first :: rest => exact agree_conjunction _ every
  | .or, first :: rest => exact some

end SegmentScope

open SegmentScope

section Searches

variable {scope : SegmentScope} {database : Database} {place : Nat}

mutual

theorem Element.agree_search (element : Element) (fold : Option Fold) :
    Agree database (fun found => IsWithin (database.held scope.table) found.1)
      (element.search scope fold) (element.search (scope.placedAt place) fold) := by
  match element with
  | .leaf criterion =>
    rw [Element.search, Element.search]
    exact .bind (agree_leaf _ _) fun _ known => agree_pure known
  | .nested connective elements =>
    have moved : (scope.placedAt place).folding = scope.folding := rfl
    rw [search_nested, search_nested, moved]
    split
    next => exact .bind (agree_leaf _ _) fun _ known => agree_pure known
    next =>
      exact .bind (agree_searchSets_of
        (fun fold => Element.agree_searchAnd elements fold 0 (by simp) [] false)
        (Element.agree_searchOr elements (isWithin_nil _))) fun _ known => agree_pure known

theorem Element.agree_searchAnd (elements : List Element) (fold : Option Fold) (start : Nat)
    {matched : Option UriSet}
    (within : ∀ found ∈ matched, IsWithin (database.held scope.table) found)
    (excluding : List Criterion) (applied : Bool) :
    Agree database (Progress.IsWithin (database.held scope.table))
      (Element.searchAnd scope fold start matched excluding applied elements)
      (Element.searchAnd (scope.placedAt place) fold start matched excluding applied elements) := by
  match elements with
  | [] => exact agree_done within
  | element :: rest =>
    have others {matched : Option UriSet}
        (within : ∀ found ∈ matched, IsWithin (database.held scope.table) found)
        (excluding : List Criterion) (applied : Bool) :=
      Element.agree_searchAnd rest fold (start + 1) within excluding applied
    cases covered : fold.any (·.covers start) with
    | true =>
      rw [Element.searchAnd_covered covered, Element.searchAnd_covered covered]
      exact others within _ _
    | false =>
      match element with
      | .leaf criterion =>
        rw [Element.searchAnd_leaf covered, Element.searchAnd_leaf covered]
        split
        next => exact others within _ _
        next =>
          refine .bind (agree_leaf _ _) fun found known => ?_
          split
          next => exact agree_pure trivial
          next => exact others (by simpa using known.narrow within) _ _
      | .nested connective elements =>
        rw [Element.searchAnd_nested covered, Element.searchAnd_nested covered]
        refine .bind (Element.agree_search (.nested connective elements) fold) fun found known => ?_
        dsimp only
        split
        next => exact agree_pure trivial
        next => exact others (by simpa using known.narrow within) _ _

theorem Element.agree_searchOr (elements : List Element) {matched : UriSet}
    (within : IsWithin (database.held scope.table) matched) :
    Agree database (IsWithin (database.held scope.table))
      (Element.searchOr scope matched elements)
      (Element.searchOr (scope.placedAt place) matched elements) := by
  match elements with
  | [] => exact agree_done within
  | element :: rest =>
    have others {matched : UriSet} (within : IsWithin (database.held scope.table) matched) :=
      Element.agree_searchOr rest within
    rw [Element.searchOr, Element.searchOr]
    refine .bind (Element.agree_search element none) fun found known => ?_
    dsimp only
    split
    next =>
      split
      next => exact .bind agree_every fun all every => others (within.union (every.diff _))
      next => exact others (within.union known)
    next => exact others (within.union known)

end

mutual

theorem Element.probeNested_placedAt (element : Element) :
    element.probeNested (scope.placedAt place) = element.probeNested scope := by
  match element with
  | .leaf criterion => rfl
  | .nested .or elements => rfl
  | .nested .and elements =>
    rw [Element.probeNested, Element.probeNested, Element.probeNestedAll_placedAt elements,
      probe_placedAt]

theorem Element.probeNestedAll_placedAt (elements : List Element) :
    Element.probeNestedAll (scope.placedAt place) elements =
      Element.probeNestedAll scope elements := by
  match elements with
  | [] => rfl
  | element :: rest =>
    rw [Element.probeNestedAll, Element.probeNestedAll, Element.probeNested_placedAt element,
      Element.probeNestedAll_placedAt rest]

end

/-- A search comes to the same at every place of the query, to objects of the table. -/
theorem SegmentScope.agree_search (mode : ExecutionMode) (container : Container) :
    Agree database (IsWithin (database.held scope.table)) (scope.search mode container)
      ((scope.placedAt place).search mode container) := by
  cases mode with
  | setAlgebra =>
    exact agree_searchSets_of
      (fun fold => Element.agree_searchAnd container.elements fold 0 (by simp) [] false)
      (Element.agree_searchOr container.elements (isWithin_nil _))
  | singleStatement =>
    simp only [search, searchComposed, Element.probeNested_placedAt]
    refine .bind (agree_same _) fun found _ => ?_
    split
    next =>
      refine .bind (agree_same _) fun _ _ => .bind (agree_same _) fun _ _ =>
        .bind (agree_self fun _ => known_of_run_ask) fun found known => ?_
      exact agree_pure (isWithin_ofList known)
    next => exact agree_pure (isWithin_nil _)

end Searches

end GraphSegments
