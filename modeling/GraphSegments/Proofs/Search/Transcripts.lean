import GraphSegments.Proofs.Search.SetAlgebra

/-!
Transcripts of dialogues. A transcript asks for all objects of a segment only once and answers from
memory afterwards. As long as every place stands for one table that makes no difference, and a
search keeps to the place of its segment.
-/

namespace GraphSegments
open Results

namespace Dialogue

variable {α β : Type}

/-- What is remembered of the objects of segments is what the database would answer. -/
def Remembers (database : Database) (memory : List (Nat × List String)) (tables : Nat → String) :
    Prop :=
  ∀ place known, (place, known) ∈ memory →
    ∃ records, database.recordsOf (tables place) = .ok records ∧
      known = (Select.everyObject (tables place)).uris database.patterns records

/-- Every place in a dialogue stands for one table. -/
def Places (tables : Nat → String) : Dialogue α → Prop
  | done _ | fail _ => True
  | uris _ next => ∀ answer, Places tables (next answer)
  | records _ next => ∀ answer, Places tables (next answer)
  | every place table next => table = tables place ∧ ∀ answer, Places tables (next answer)
  | depth _ next | note _ next => Places tables next

theorem Remembers.cons {database : Database} {memory : List (Nat × List String)}
    {tables : Nat → String} (remembers : Remembers database memory tables) {place : Nat}
    {records : List Record} (present : database.recordsOf (tables place) = .ok records) :
    Remembers database
      ((place, (Select.everyObject (tables place)).uris database.patterns records) :: memory)
      tables := by
  intro other known member
  rcases List.mem_cons.1 member with same | old
  · obtain ⟨rfl, rfl⟩ := Prod.mk.inj same
    exact ⟨records, present, rfl⟩
  · exact remembers other known old

/-- The transcript of a dialogue with a database ends with what the dialogue comes to, although
the objects of a segment are asked for only once. -/
theorem outcome_transcript (database : Database) (tables : Nat → String) (dialogue : Dialogue α)
    (number : Nat) (memory : List (Nat × List String))
    (remembers : Remembers database memory tables) (placed : dialogue.Places tables) :
    (dialogue.transcript (.ofDatabase database) number memory).outcome = dialogue.run database := by
  induction dialogue generalizing number memory with
  | done value => rfl
  | fail error => rfl
  | uris select next ih =>
    simp only [transcript, Responder.ofDatabase, run]
    cases database.recordsOf select.table with
    | error error => rfl
    | ok records => exact ih _ (number + 1) memory remembers (placed _)
  | records select next ih =>
    simp only [transcript, Responder.ofDatabase, run]
    cases database.recordsOf select.table with
    | error error => rfl
    | ok records => exact ih _ (number + 1) memory remembers (placed _)
  | every place table next ih =>
    obtain ⟨rfl, restPlaced⟩ := placed
    simp only [transcript, run]
    cases recalled : memory.find? (·.1 == place) with
    | some entry =>
      obtain ⟨entryPlace, known⟩ := entry
      have same : entryPlace = place := by simpa using List.find?_some recalled
      subst same
      obtain ⟨records, present, rfl⟩ :=
        remembers entryPlace known (List.mem_of_find?_eq_some recalled)
      simp only [present, ok_bind]
      exact ih _ number memory remembers (restPlaced _)
    | none =>
      simp only [Responder.ofDatabase]
      cases present : database.recordsOf (tables place) with
      | error error => simp only [Select.everyObject, present, error_bind]
      | ok records =>
        simp only [Select.everyObject, present, ok_bind]
        exact ih _ (number + 1) _ (remembers.cons present) (restPlaced _)
  | depth needed next ih =>
    simp only [transcript, Responder.ofDatabase, run, decide_eq_true_eq]
    split
    · exact ih number memory remembers placed
    · rfl
  | note entry next ih => exact ih number memory remembers placed

/-! Dialogues that keep to their places. -/

variable {tables : Nat → String}

theorem places_pure (value : α) : Places tables (pure value : Dialogue α) := trivial

theorem places_done (value : α) : Places tables (done value) := trivial

theorem places_ofExcept (result : Except Error α) : Places tables (ofExcept result) := by
  cases result <;> exact trivial

theorem places_reach (needed : Nat) : Places tables (reach needed) := trivial

theorem Places.bind {dialogue : Dialogue α} {next : α → Dialogue β}
    (first : Places tables dialogue) (later : ∀ value, Places tables (next value)) :
    Places tables (dialogue >>= next) := by
  change Places tables (dialogue.bind next)
  induction dialogue with
  | done value => exact later value
  | fail error => exact trivial
  | uris select rest ih | records select rest ih => exact fun answer => ih answer (first answer)
  | every place table rest ih => exact ⟨first.1, fun answer => ih answer (first.2 answer)⟩
  | depth needed rest ih | note entry rest ih => exact ih first

end Dialogue

open Dialogue

section Searches

variable {tables : Nat → String} {scope : SegmentScope} (here : scope.table = tables scope.place)

namespace SegmentScope

theorem places_ask (label : String) (select : Select) : Places tables (ask label select) :=
  fun _ => trivial

theorem places_leaf (fold : Option Fold) (criterion : Criterion) :
    Places tables (scope.leaf fold criterion) :=
  .bind (places_ofExcept _) fun _ => .bind (places_ask _ _) fun _ => trivial

include here in
theorem places_every : Places tables scope.every := ⟨here, fun _ => trivial⟩

theorem places_probeEach (criteria : List Criterion) :
    Places tables (scope.probeEach criteria) := by
  induction criteria with
  | nil => exact trivial
  | cons criterion rest ih =>
    refine .bind (places_ofExcept _) fun condition => .bind (places_ask _ _) fun found => ?_
    split
    next => exact trivial
    next => exact ih

theorem places_probe (container : Container) : Places tables (scope.probe container) := by
  unfold probe
  split
  next => exact places_probeEach _
  next => exact trivial

theorem places_exclude (matched : UriSet) (excluding : List Criterion) :
    Places tables (scope.exclude matched excluding) := by
  induction excluding generalizing matched with
  | nil => exact trivial
  | cons criterion rest ih =>
    unfold exclude
    split
    next => exact trivial
    next => exact .bind (places_leaf _ _) fun _ => ih _

theorem places_matchFold (fold : Fold) (matched : Option UriSet) :
    Places tables (scope.matchFold fold matched) :=
  .bind (places_ask _ _) fun _ => by cases matched <;> exact trivial

include here in
theorem places_conclude (fold : Option Fold) (progress : Progress) :
    Places tables (scope.conclude fold progress) := by
  cases progress with
  | exhausted => exact trivial
  | «open» matched excluding applied =>
    simp only [conclude]
    split
    next => exact .bind (places_matchFold _ _) fun _ => places_exclude _ _
    next => exact .bind (places_pure _) fun _ => places_exclude _ _
    next => exact .bind (places_every here) fun _ => places_exclude _ _

include here in
theorem places_conjunction (elements : List Element) {search : Option Fold → Dialogue Progress}
    (inner : ∀ fold, Places tables (search fold)) :
    Places tables (scope.conjunction elements search) := by
  refine .bind (places_probe _) fun wanted => ?_
  split
  next =>
    refine .bind (places_ofExcept _) fun fold => ?_
    split
    next => exact trivial
    next => exact .bind (inner fold) fun progress => places_conclude here fold progress
  next => exact trivial

include here in
theorem places_searchSets_of {connective : Connective} {elements : List Element}
    (every : ∀ fold, Places tables (Element.searchAnd scope fold 0 none [] false elements))
    (some : Places tables (Element.searchOr scope [] elements)) :
    Places tables (scope.searchSets ⟨connective, elements⟩) := by
  match connective, elements with
  | .and, [] => exact places_every here
  | .or, [] => exact places_done _
  | .and, first :: rest => exact places_conjunction here _ every
  | .or, first :: rest => exact some

end SegmentScope

include here

set_option linter.unusedSectionVars false in
mutual

theorem Element.places_search (element : Element) (fold : Option Fold) :
    Places tables (element.search scope fold) := by
  match element with
  | .leaf criterion =>
    rw [Element.search]
    exact .bind (SegmentScope.places_leaf _ _) fun _ => places_pure _
  | .nested connective elements =>
    rw [SegmentScope.search_nested]
    split
    next => exact .bind (SegmentScope.places_leaf _ _) fun _ => places_pure _
    next =>
      exact .bind (SegmentScope.places_searchSets_of here
        (fun fold => Element.places_searchAnd elements fold 0 none [] false)
        (Element.places_searchOr elements [])) fun _ => places_pure _

theorem Element.places_searchAnd (elements : List Element) (fold : Option Fold) (place : Nat)
    (matched : Option UriSet) (excluding : List Criterion) (applied : Bool) :
    Places tables (Element.searchAnd scope fold place matched excluding applied elements) := by
  match elements with
  | [] => exact trivial
  | element :: rest =>
    have others (matched : Option UriSet) (excluding : List Criterion) (applied : Bool) :=
      Element.places_searchAnd rest fold (place + 1) matched excluding applied
    cases covered : fold.any (·.covers place) with
    | true =>
      rw [Element.searchAnd_covered covered]
      exact others _ _ _
    | false =>
      match element with
      | .leaf criterion =>
        rw [Element.searchAnd_leaf covered]
        split
        next => exact others _ _ _
        next =>
          refine .bind (SegmentScope.places_leaf _ _) fun found => ?_
          split
          next => exact places_pure _
          next => exact others _ _ _
      | .nested connective elements =>
        rw [Element.searchAnd_nested covered]
        refine .bind (Element.places_search (.nested connective elements) fold) fun found => ?_
        dsimp only
        split
        next => exact places_pure _
        next => exact others _ _ _

theorem Element.places_searchOr (elements : List Element) (matched : UriSet) :
    Places tables (Element.searchOr scope matched elements) := by
  match elements with
  | [] => exact trivial
  | element :: rest =>
    have others (matched : UriSet) := Element.places_searchOr rest matched
    rw [Element.searchOr]
    refine .bind (Element.places_search element none) fun found => ?_
    dsimp only
    split
    next =>
      split
      next => exact .bind (SegmentScope.places_every here) fun _ => others _
      next => exact others _
    next => exact others _

end

omit here in
mutual

theorem Element.places_probeNested (element : Element) :
    Places tables (element.probeNested scope) := by
  match element with
  | .leaf criterion => exact trivial
  | .nested .or elements => exact trivial
  | .nested .and elements =>
    refine .bind (SegmentScope.places_probe _) fun found => ?_
    split
    next => exact Element.places_probeNestedAll elements
    next => exact trivial

theorem Element.places_probeNestedAll (elements : List Element) :
    Places tables (Element.probeNestedAll scope elements) := by
  match elements with
  | [] => exact trivial
  | element :: rest =>
    refine .bind (Element.places_probeNested element) fun found => ?_
    split
    next => exact Element.places_probeNestedAll rest
    next => exact trivial

end

theorem SegmentScope.places_search (mode : ExecutionMode) (container : Container) :
    Places tables (scope.search mode container) := by
  cases mode with
  | setAlgebra =>
    exact places_searchSets_of here
      (fun fold => Element.places_searchAnd here container.elements fold 0 none [] false)
      (Element.places_searchOr here container.elements [])
  | singleStatement =>
    refine .bind (Element.places_probeNested _) fun found => ?_
    split
    next =>
      exact .bind (places_ofExcept _) fun _ => .bind (places_reach _) fun _ =>
        .bind (places_ask _ _) fun _ => trivial
    next => exact trivial

omit here in
/-- The transcript of a search with a database ends with what the search comes to. -/
theorem SegmentScope.outcome_search (scope : SegmentScope) (mode : ExecutionMode)
    (container : Container) (database : Database) :
    ((scope.search mode container).transcript (.ofDatabase database) 0 []).outcome =
      (scope.search mode container).run database :=
  outcome_transcript database (fun _ => scope.table) _ 0 [] (by simp [Remembers])
    (places_search rfl mode container)

end Searches

end GraphSegments
