import GraphSegments.Proofs.Search.Questions

/-!
Searching by set algebra finds the objects that match. The sets that are cut short, the criteria
that are put off and the folds that are asked along with others all come to the meaning of the
container.
-/

namespace GraphSegments
open Results Dialogue UriSet

namespace SegmentScope

variable {scope : SegmentScope} {database : Database} {records : List Record}
  {reading : Reading}

/-- What the sets found so far stand for, if there is any. -/
def FindsSoFar (reading : Reading) (matched : Option UriSet) (meaning : String → Prop) : Prop :=
  match matched with
  | none => ∀ uri, reading.known uri → meaning uri
  | some matched => Finds reading matched meaning

theorem FindsSoFar.narrow {matched : Option UriSet} {found : UriSet} {p q : String → Prop}
    (soFar : FindsSoFar reading matched p) (more : Finds reading found q) :
    Finds reading (SegmentScope.narrow matched found) fun uri => p uri ∧ q uri := by
  cases matched with
  | none => exact more.congr fun uri known => by simp [soFar uri known]
  | some matched => exact soFar.inter more

/-- What the search of an AND container has come to: the sets found so far less what the criteria
that were put off exclude. An exhausted search stands for nothing. -/
def Progress.Stands (reading : Reading) (progress : Progress) (meaning : String → Prop) : Prop :=
  match progress with
  | .exhausted => ∀ uri, reading.known uri → ¬ meaning uri
  | .open matched excluding _ => ∃ kept, FindsSoFar reading matched kept ∧
    ∀ uri, reading.known uri →
      (meaning uri ↔ kept uri ∧ ∀ criterion ∈ excluding, ¬ reading.leaf none criterion uri)

/-- Whether a search that can still find something has asked for its fold. -/
def Progress.Applied (progress : Progress) (applied : Bool) : Prop :=
  match progress with
  | .exhausted => True
  | .open _ _ asked => asked = applied

theorem Progress.Stands.congr {progress : Progress} {p q : String → Prop}
    (stands : progress.Stands reading p) (same : ∀ uri, reading.known uri → (p uri ↔ q uri)) :
    progress.Stands reading q := by
  cases progress with
  | exhausted => exact fun uri known meaning => stands uri known ((same uri known).2 meaning)
  | «open» matched excluding applied =>
    obtain ⟨kept, soFar, iff⟩ := stands
    exact ⟨kept, soFar, fun uri known => (same uri known).symm.trans (iff uri known)⟩

theorem Progress.stands_start (reading : Reading) :
    (Progress.open none [] false).Stands reading fun _ => True :=
  ⟨fun _ => True, fun _ _ => trivial, fun uri _ => by simp⟩

section Progress

variable {matched : Option UriSet} {excluding : List Criterion} {applied : Bool}
  {meaning : String → Prop}

/-- A criterion that excludes objects is put off. -/
theorem Progress.Stands.putOff {criterion : Criterion}
    (stands : (Progress.open matched excluding applied).Stands reading meaning) :
    (Progress.open matched (excluding ++ [criterion]) applied).Stands reading fun uri =>
      meaning uri ∧ ¬ reading.leaf none criterion uri := by
  obtain ⟨kept, soFar, same⟩ := stands
  refine ⟨kept, soFar, fun uri known => ?_⟩
  simp only [same uri known, List.mem_append, List.mem_singleton]
  constructor
  · intro kept
    obtain ⟨⟨stays, spared⟩, further⟩ := kept
    refine ⟨stays, fun other member => ?_⟩
    rcases member with old | rfl
    · exact spared other old
    · exact further
  · intro kept
    obtain ⟨stays, spared⟩ := kept
    exact ⟨⟨stays, fun other old => spared other (.inl old)⟩, spared criterion (.inr rfl)⟩

theorem Progress.Stands.narrow {found : UriSet} {more : String → Prop} {asked : Bool}
    (stands : (Progress.open matched excluding applied).Stands reading meaning)
    (finds : Finds reading found more) :
    (Progress.open (some (SegmentScope.narrow matched found)) excluding asked).Stands reading
      fun uri => meaning uri ∧ more uri := by
  obtain ⟨kept, soFar, same⟩ := stands
  refine ⟨_, soFar.narrow finds, fun uri known => ?_⟩
  simp only [same uri known]
  exact and_right_comm

/-- Once the sets have nothing in common nothing matches, whatever comes after. -/
theorem Progress.Stands.exhaust {found : UriSet} {more : String → Prop} {rest : String → Prop}
    (stands : (Progress.open matched excluding applied).Stands reading meaning)
    (finds : Finds reading found more)
    (empty : (SegmentScope.narrow matched found).isEmpty = true) :
    Progress.exhausted.Stands reading fun uri => meaning uri ∧ more uri ∧ rest uri := by
  obtain ⟨kept, soFar, same⟩ := stands
  intro uri known matched
  obtain ⟨meant, matching, -⟩ := matched
  exact (soFar.narrow finds).none_of_isEmpty empty uri known
    ⟨((same uri known).1 meant).1, matching⟩

end Progress

section Containers

variable (present : database.recordsOf scope.table = .ok records)
  (describes : reading.Describes scope.toLeafScope database.patterns records)

include present describes

theorem finds_conclude {fold : Option Fold} {progress : Progress} {found : UriSet}
    {meaning : String → Prop} {applied : Bool} (stands : progress.Stands reading meaning)
    (asked : progress.Applied applied)
    (ran : (scope.conclude fold progress).run database = .ok found) :
    Finds reading found fun uri =>
      meaning uri ∧ ∀ used ∈ fold, applied = false → reading.fold used uri := by
  cases progress with
  | exhausted =>
    obtain rfl := Except.ok.inj ran
    exact .nil fun uri known meant => stands uri known meant.1
  | «open» matched excluding carried =>
    obtain rfl : carried = applied := asked
    obtain ⟨kept, soFar, same⟩ := stands
    simp only [conclude] at ran
    have begun : ∃ start, (scope.exclude start excluding).run database = .ok found ∧
        Finds reading start fun uri =>
          kept uri ∧ ∀ used ∈ fold, carried = false → reading.fold used uri := by
      match fold, carried, matched with
      | some used, false, matched =>
        simp only [run_bind, run_matchFold present, ok_bind] at ran
        refine ⟨_, ran, (soFar.narrow (describes.finds_found used.condition)).congr ?_⟩
        exact fun uri _ => by simp [describes.fold]
      | some used, true, some matched | none, _, some matched =>
        exact ⟨matched, ran, Finds.congr soFar fun uri _ => by simp⟩
      | some used, true, none | none, _, none =>
        simp only [run_bind, bind_eq_ok] at ran
        obtain ⟨start, asked, ran⟩ := ran
        refine ⟨start, ran, (finds_every present describes asked).congr ?_⟩
        exact fun uri known => by simp [soFar uri known]
    obtain ⟨start, ran, begun⟩ := begun
    apply (finds_exclude present describes begun ran).congr
    intro uri known
    simp only [same uri known]
    exact and_right_comm

/-- What the search of the elements of an AND container is about: they are all matched, and it is
known whether the fold was asked along with one of them. -/
def Searches (scope : SegmentScope) (database : Database) (reading : Reading)
    (elements : List Element) : Prop :=
  ∀ fold progress, (Element.searchAnd scope fold 0 none [] false elements).run database =
      .ok progress →
    progress.Stands reading (fun uri =>
      Element.MatchesAll reading scope.folding fold uri 0 elements) ∧
    progress.Applied (Element.carriesAny scope.folding fold 0 elements)

variable {p : List Element → Prop} (trusts : scope.Trusts reading database.patterns records p)
include trusts

theorem finds_conjunction {elements : List Element} {found : UriSet}
    (whole : p elements) (searched : scope.Searches database reading elements)
    (ran : (scope.conjunction elements fun fold =>
      Element.searchAnd scope fold 0 none [] false elements).run database = .ok found) :
    Finds reading found (Container.Matches reading scope.folding ⟨.and, elements⟩) := by
  rw [conjunction, run_bind, bind_eq_ok] at ran
  obtain ⟨wanted, probed, ran⟩ := ran
  cases wanted with
  | false =>
    obtain rfl := Except.ok.inj ran
    exact .nil fun uri known matching => trusts.unmatched present whole probed known matching
  | true =>
    simp only [ite_true, run_bind, run_ofExcept, bind_eq_ok] at ran
    obtain ⟨fold, wanted, ran⟩ := ran
    have used : Fold.used scope.folding ⟨.and, elements⟩ = fold := Fold.used_of_wanted wanted
    split at ran
    next unsatisfiable =>
      obtain rfl := Except.ok.inj ran
      refine .nil fun uri _ matching => ?_
      simp [Container.Matches, Container.Joins, used, unsatisfiable] at matching
    next satisfiable =>
      rw [run_bind, bind_eq_ok] at ran
      obtain ⟨progress, asked, ran⟩ := ran
      obtain ⟨stands, applied⟩ := searched fold progress asked
      apply (finds_conclude present describes stands applied ran).congr
      intro uri _
      simp [Container.Matches, Container.Joins, used, satisfiable]

theorem finds_searchSets_of {connective : Connective} {elements : List Element} {found : UriSet}
    (whole : connective = .and → p elements)
    (searched : scope.Searches database reading elements)
    (some : ∀ found, (Element.searchOr scope [] elements).run database = .ok found →
      Finds reading found fun uri => Element.MatchesSome reading scope.folding uri elements)
    (ran : (scope.searchSets ⟨connective, elements⟩).run database = .ok found) :
    Finds reading found (Container.Matches reading scope.folding ⟨connective, elements⟩) := by
  match connective, elements with
  | .and, [] =>
    apply (finds_every present describes ran).congr
    intro uri _
    simp [Container.Matches, Container.Joins, Element.MatchesAll]
  | .or, [] => exact some found ran
  | .and, first :: rest => exact finds_conjunction present describes trusts (whole rfl) searched ran
  | .or, first :: rest => exact some found ran

end Containers

/-- A nested container is searched as it is on its own, unless it is read as one type criterion. -/
theorem search_nested (fold : Option Fold) (connective : Connective) (elements : List Element) :
    (Element.nested connective elements).search scope fold =
      match Fold.typesWanted scope.folding ⟨connective, elements⟩ with
      | some criterion => do return (← scope.leaf fold (.type criterion), fold.isSome)
      | none => do return (← scope.searchSets ⟨connective, elements⟩, false) := by
  rw [Element.search]
  cases Fold.typesWanted scope.folding ⟨connective, elements⟩ with
  | some criterion => rfl
  | none => cases connective <;> cases elements <;> rfl

end SegmentScope

namespace Element

variable {scope : SegmentScope} {fold : Option Fold} {place : Nat} {matched : Option UriSet}
  {excluding : List Criterion} {applied : Bool}

theorem searchAnd_covered (covered : fold.any (·.covers place) = true) (element : Element)
    (rest : List Element) :
    searchAnd scope fold place matched excluding applied (element :: rest) =
      searchAnd scope fold (place + 1) matched excluding applied rest := by
  cases element <;> simp [searchAnd, covered]

theorem searchAnd_leaf (covered : fold.any (·.covers place) = false) (criterion : Criterion)
    (rest : List Element) :
    searchAnd scope fold place matched excluding applied (.leaf criterion :: rest) =
      (if criterion.isSetNegation then
        searchAnd scope fold (place + 1) matched (excluding ++ [criterion]) applied rest
      else do
        let found ← scope.leaf fold criterion
        if (SegmentScope.narrow matched found).isEmpty then return .exhausted
        else
          searchAnd scope fold (place + 1) (some (SegmentScope.narrow matched found)) excluding
            (applied || fold.isSome) rest) := by
  simp [searchAnd, covered]

theorem searchAnd_nested (covered : fold.any (·.covers place) = false) (connective : Connective)
    (elements rest : List Element) :
    searchAnd scope fold place matched excluding applied (.nested connective elements :: rest) =
      (do
        let (found, asked) ← (Element.nested connective elements).search scope fold
        if (SegmentScope.narrow matched found).isEmpty then return .exhausted
        else
          searchAnd scope fold (place + 1) (some (SegmentScope.narrow matched found)) excluding
            (applied || asked) rest) := by
  simp [searchAnd, covered]

end Element

section Trees

variable {scope : SegmentScope} {database : Database} {records : List Record} {reading : Reading}
  (present : database.recordsOf scope.table = .ok records)
  (describes : reading.Describes scope.toLeafScope database.patterns records)
  {p : List Element → Prop} (trusts : scope.Trusts reading database.patterns records p)

/-- What the search of one element finds. A criterion is searched in its positive form. -/
def Element.Sought (reading : Reading) (folding : Bool) (fold : Option Fold) (found : UriSet)
    (asked : Bool) : Element → Prop
  | .leaf criterion => Finds reading found (reading.leaf fold criterion)
  | .nested connective elements =>
    Finds reading found (fun uri =>
      (Element.nested connective elements).Matches reading folding fold uri) ∧
    asked = (Element.nested connective elements).carries folding fold

include present describes trusts

set_option linter.unusedSectionVars false

mutual

theorem Element.sought_search (element : Element) (each : element.EachAnd scope.folding p)
    {fold : Option Fold} {found : UriSet} {asked : Bool}
    (ran : (element.search scope fold).run database = .ok (found, asked)) :
    element.Sought reading scope.folding fold found asked := by
  match element with
  | .leaf criterion =>
    rw [Element.search, run_bind, bind_eq_ok] at ran
    obtain ⟨first, searched, ran⟩ := ran
    obtain ⟨rfl, -⟩ := Prod.mk.inj (Except.ok.inj ran)
    exact SegmentScope.finds_leaf present describes searched
  | .nested connective elements =>
    rw [SegmentScope.search_nested] at ran
    simp only [Element.Sought, Element.matches_nested, Element.carries]
    cases read : Fold.typesWanted scope.folding ⟨connective, elements⟩ with
    | some criterion =>
      simp only [read] at ran
      rw [run_bind, bind_eq_ok] at ran
      obtain ⟨first, searched, ran⟩ := ran
      obtain ⟨rfl, rfl⟩ := Prod.mk.inj (Except.ok.inj ran)
      exact ⟨SegmentScope.finds_leaf present describes searched, rfl⟩
    | none =>
      simp only [read] at ran
      rw [run_bind, bind_eq_ok] at ran
      obtain ⟨first, searched, ran⟩ := ran
      obtain ⟨rfl, rfl⟩ := Prod.mk.inj (Except.ok.inj ran)
      refine ⟨SegmentScope.finds_searchSets_of present describes trusts
        (fun same => each.1 same read) ?_ ?_ searched, rfl⟩
      · intro fold progress ran
        have start := SegmentScope.Progress.stands_start reading
        simpa using Element.stands_searchAnd elements each.2 start ran
      · intro found ran
        have start : Finds reading [] fun _ => False := .nil fun _ _ => id
        simpa using Element.finds_searchOr elements each.2 start ran

theorem Element.stands_searchAnd (elements : List Element)
    (each : Element.EachAndAll scope.folding p elements)
    {fold : Option Fold} {place : Nat} {matched : Option UriSet} {excluding : List Criterion}
    {applied : Bool}
    {progress : SegmentScope.Progress} {meaning : String → Prop}
    (stands : (SegmentScope.Progress.open matched excluding applied).Stands reading meaning)
    (ran : (Element.searchAnd scope fold place matched excluding applied elements).run database =
      .ok progress) :
    progress.Stands reading (fun uri =>
      meaning uri ∧ Element.MatchesAll reading scope.folding fold uri place elements) ∧
    progress.Applied (applied || Element.carriesAny scope.folding fold place elements) := by
  match elements with
  | [] =>
    rw [Element.searchAnd] at ran
    obtain rfl := Except.ok.inj ran
    refine ⟨stands.congr fun uri _ => by simp [Element.MatchesAll], ?_⟩
    simp [SegmentScope.Progress.Applied, Element.carriesAny]
  | element :: rest =>
    simp only [Element.MatchesAll, Element.carriesAny]
    cases covered : fold.any (·.covers place) with
    | true =>
      rw [Element.searchAnd_covered covered] at ran
      have ⟨rested, carried⟩ := Element.stands_searchAnd rest each.2 stands ran
      exact ⟨rested.congr fun uri _ => by simp, by simpa using carried⟩
    | false =>
      simp only [forall_const, Bool.not_false, Bool.true_and]
      match element with
      | .leaf criterion =>
        rw [Element.searchAnd_leaf covered] at ran
        simp only [Element.Matches, Criterion.Matches, Element.carries]
        split at ran
        next negative =>
          have ⟨rested, carried⟩ := Element.stands_searchAnd rest each.2 stands.putOff ran
          exact ⟨rested.congr fun uri _ => by simp [negative, and_assoc],
            by simpa [negative] using carried⟩
        next positive =>
          rw [run_bind, bind_eq_ok] at ran
          obtain ⟨found, searched, ran⟩ := ran
          have finds := SegmentScope.finds_leaf present describes searched
          simp only [positive, Bool.false_eq_true, ite_false, Bool.not_false, Bool.true_and]
          split at ran
          next empty =>
            obtain rfl := Except.ok.inj ran
            exact ⟨stands.exhaust finds empty, trivial⟩
          next =>
            have ⟨rested, carried⟩ := Element.stands_searchAnd rest each.2 (stands.narrow finds) ran
            exact ⟨rested.congr fun uri _ => and_assoc, by simpa [Bool.or_assoc] using carried⟩
      | .nested connective elements =>
        rw [Element.searchAnd_nested covered, run_bind, bind_eq_ok] at ran
        obtain ⟨⟨found, asked⟩, searched, ran⟩ := ran
        obtain ⟨finds, rfl⟩ := Element.sought_search (.nested connective elements) each.1 searched
        dsimp only at ran
        split at ran
        next empty =>
          obtain rfl := Except.ok.inj ran
          exact ⟨stands.exhaust finds empty, trivial⟩
        next =>
          have ⟨rested, carried⟩ := Element.stands_searchAnd rest each.2 (stands.narrow finds) ran
          exact ⟨rested.congr fun uri _ => and_assoc, by simpa [Bool.or_assoc] using carried⟩

theorem Element.finds_searchOr (elements : List Element)
    (each : Element.EachAndAll scope.folding p elements)
    {matched found : UriSet} {meaning : String → Prop} (start : Finds reading matched meaning)
    (ran : (Element.searchOr scope matched elements).run database = .ok found) :
    Finds reading found fun uri =>
      meaning uri ∨ Element.MatchesSome reading scope.folding uri elements := by
  match elements with
  | [] =>
    rw [Element.searchOr] at ran
    obtain rfl := Except.ok.inj ran
    exact start.congr fun uri _ => by simp [Element.MatchesSome]
  | element :: rest =>
    rw [Element.searchOr, run_bind, bind_eq_ok] at ran
    obtain ⟨⟨found, asked⟩, searched, ran⟩ := ran
    have sought := Element.sought_search element each.1 searched
    simp only [Element.MatchesSome, ← or_assoc]
    match element with
    | .leaf criterion =>
      dsimp only at ran
      split at ran
      next negative =>
        rw [run_bind, bind_eq_ok] at ran
        obtain ⟨all, asked, ran⟩ := ran
        have whole := SegmentScope.finds_every present describes asked
        have next := Element.finds_searchOr rest each.2 (start.union (whole.diff sought)) ran
        exact next.congr fun uri _ => by simp [Element.Matches, Criterion.Matches, negative]
      next positive =>
        have next := Element.finds_searchOr rest each.2 (start.union sought) ran
        exact next.congr fun uri _ => by simp [Element.Matches, Criterion.Matches, positive]
    | .nested connective elements =>
      exact Element.finds_searchOr rest each.2 (start.union sought.1) ran

end

/-- A search by set algebra finds the objects that match, whatever it may leave unasked. -/
theorem SegmentScope.finds_searchSets {container : Container}
    (each : container.EachAnd scope.folding p) {found : UriSet}
    (ran : (scope.searchSets container).run database = .ok found) :
    Finds reading found (container.Matches reading scope.folding) := by
  refine finds_searchSets_of present describes trusts each.1 ?_ ?_ ran
  · intro fold progress ran
    simpa using Element.stands_searchAnd present describes trusts container.elements each.2
      (Progress.stands_start reading) ran
  · intro found ran
    have start : Finds reading [] fun _ => False := .nil fun _ _ => id
    simpa using Element.finds_searchOr present describes trusts container.elements each.2 start ran

end Trees

end GraphSegments
