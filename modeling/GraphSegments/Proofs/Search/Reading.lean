import GraphSegments.Proofs.Search.Conditions
import GraphSegments.Proofs.Search.UriSets
import GraphSegments.Search.Matching

/-!
What a tree of criteria means for an object, given what single criteria and folds mean for it. Both
ways of searching are compared with this meaning and not with each other.
-/

namespace GraphSegments

/-- What single criteria and folds mean for the objects of a table, known by their URIs. -/
structure Reading where
  /-- The objects that there are. -/
  known : String → Prop
  /-- The positive form of a criterion, along with a fold if there is one. -/
  leaf : Option Fold → Criterion → String → Prop
  fold : Fold → String → Prop

namespace Reading

/-- The reading that asks the records of a table. A criterion that is no condition means nothing. -/
def ofRecords (scope : LeafScope) (patterns : Patterns) (records : List Record) : Reading where
  known uri := ∃ record ∈ records, record.uri = uri
  leaf fold criterion uri := ∃ condition,
    criterion.leafCondition scope fold = .ok condition ∧ condition.Selects patterns records uri
  fold fold uri := fold.condition.Selects patterns records uri

/-- A reading agrees with a table wherever a criterion is a condition. -/
structure Describes (reading : Reading) (scope : LeafScope) (patterns : Patterns)
    (records : List Record) : Prop where
  known : ∀ uri, reading.known uri ↔ ∃ record ∈ records, record.uri = uri
  leaf : ∀ {fold criterion condition}, criterion.leafCondition scope fold = .ok condition →
    ∀ uri, reading.leaf fold criterion uri ↔ condition.Selects patterns records uri
  fold : ∀ fold uri, reading.fold fold uri ↔ fold.condition.Selects patterns records uri

theorem describes_ofRecords (scope : LeafScope) (patterns : Patterns) (records : List Record) :
    (ofRecords scope patterns records).Describes scope patterns records where
  known _ := Iff.rfl
  leaf {fold criterion condition} compiled uri := by
    constructor
    · intro found
      obtain ⟨other, same, selects⟩ := found
      rw [compiled] at same
      exact Except.ok.inj same ▸ selects
    · exact fun selects => ⟨condition, compiled, selects⟩
  fold _ _ := Iff.rfl

end Reading

/-- The fold that a search of a container uses. -/
def Fold.used (folding : Bool) (container : Container) : Option Fold :=
  match Fold.wanted folding container with
  | .ok fold => fold
  | .error _ => none

/-- Whether an element is asked for together with the fold of its container. -/
def Element.carries (folding : Bool) (fold : Option Fold) : Element → Bool
  | .leaf criterion => !criterion.isSetNegation && fold.isSome
  | .nested connective elements =>
    (Fold.typesWanted folding ⟨connective, elements⟩).isSome && fold.isSome

/-- Whether one of the elements that a fold does not cover carries it. -/
def Element.carriesAny (folding : Bool) (fold : Option Fold) (place : Nat) : List Element → Bool
  | [] => false
  | element :: rest =>
    (!fold.any (·.covers place) && element.carries folding fold) ||
      Element.carriesAny folding fold (place + 1) rest

/-- What a criterion means along with a fold. One that excludes objects does not carry it. -/
def Criterion.Matches (reading : Reading) (fold : Option Fold) (criterion : Criterion)
    (uri : String) : Prop :=
  if criterion.isSetNegation then ¬ reading.leaf none criterion uri
  else reading.leaf fold criterion uri

/-- What a container means, given what its elements mean together: a fold that no element carries
is one more thing to be matched. -/
def Container.Joins (reading : Reading) (folding : Bool) (container : Container)
    (every : Option Fold → Prop) (some : Prop) (uri : String) : Prop :=
  match container.connective with
  | .or => some
  | .and =>
    let fold := Fold.used folding container
    fold.any (·.unsatisfiable) = false ∧ every fold ∧
      ∀ used ∈ fold, Element.carriesAny folding fold 0 container.elements = false →
        reading.fold used uri

mutual

/-- Whether an object matches an element of a container with a fold. -/
def Element.Matches (reading : Reading) (folding : Bool) (fold : Option Fold) (uri : String) :
    Element → Prop
  | .leaf criterion => criterion.Matches reading fold uri
  | .nested connective elements =>
    match Fold.typesWanted folding ⟨connective, elements⟩ with
    | some criterion => reading.leaf fold (.type criterion) uri
    | none =>
      Container.Joins reading folding ⟨connective, elements⟩
        (fun fold => Element.MatchesAll reading folding fold uri 0 elements)
        (Element.MatchesSome reading folding uri elements) uri

/-- Whether an object matches all elements that a fold does not cover. -/
def Element.MatchesAll (reading : Reading) (folding : Bool) (fold : Option Fold) (uri : String)
    (place : Nat) : List Element → Prop
  | [] => True
  | element :: rest =>
    (fold.any (·.covers place) = false → element.Matches reading folding fold uri) ∧
      Element.MatchesAll reading folding fold uri (place + 1) rest

/-- Whether an object matches one of some elements. -/
def Element.MatchesSome (reading : Reading) (folding : Bool) (uri : String) :
    List Element → Prop
  | [] => False
  | element :: rest =>
    element.Matches reading folding none uri ∨ Element.MatchesSome reading folding uri rest

end

/-- Whether an object matches a container. -/
def Container.Matches (reading : Reading) (folding : Bool) (container : Container)
    (uri : String) : Prop :=
  container.Joins reading folding
    (fun fold => Element.MatchesAll reading folding fold uri 0 container.elements)
    (Element.MatchesSome reading folding uri container.elements) uri

/-- A nested container means what it means on its own, unless it is read as one type criterion. -/
theorem Element.matches_nested {reading : Reading} {folding : Bool} {fold : Option Fold}
    {uri : String} {connective : Connective} {elements : List Element} :
    (Element.nested connective elements).Matches reading folding fold uri ↔
      match Fold.typesWanted folding ⟨connective, elements⟩ with
      | some criterion => reading.leaf fold (.type criterion) uri
      | none => Container.Matches reading folding ⟨connective, elements⟩ uri := by
  rw [Element.Matches]
  split <;> rfl

/-- Whatever is listed has a place. -/
theorem exists_place {α : Type} {a : α} {items : List α} (member : a ∈ items) :
    ∃ place, (a, place) ∈ items.zipIdx := by
  obtain ⟨place, inside, rfl⟩ := List.mem_iff_getElem.1 member
  exact ⟨place, List.mem_zipIdx_iff_getElem?.2 (List.getElem?_eq_getElem inside)⟩

/-! Containers of nothing but criteria. -/

section Leaves

variable {reading : Reading} {folding : Bool} {fold : Option Fold} {uri : String}

theorem Element.matchesAll_leaves {criteria : List Criterion} {place : Nat} :
    Element.MatchesAll reading folding fold uri place (criteria.map .leaf) ↔
      ∀ x ∈ criteria.zipIdx place, fold.any (·.covers x.2) = false →
        x.1.Matches reading fold uri := by
  induction criteria generalizing place with
  | nil => simp [Element.MatchesAll]
  | cons criterion rest ih =>
    simp [Element.MatchesAll, Element.Matches, List.zipIdx_cons, ih]

theorem Element.carriesAny_leaves {fold : Fold} {criteria : List Criterion} {place : Nat} :
    Element.carriesAny folding (some fold) place (criteria.map .leaf) = true ↔
      ∃ x ∈ criteria.zipIdx place, fold.covers x.2 = false ∧ x.1.isSetNegation = false := by
  induction criteria generalizing place with
  | nil => simp [Element.carriesAny]
  | cons criterion rest ih =>
    simp [Element.carriesAny, Element.carries, List.zipIdx_cons, ih]

theorem Element.matchesSome_leaves {criteria : List Criterion} :
    Element.MatchesSome reading folding uri (criteria.map .leaf) ↔
      ∃ criterion ∈ criteria, criterion.Matches reading none uri := by
  induction criteria with
  | nil => simp [Element.MatchesSome]
  | cons criterion rest ih => simp [Element.MatchesSome, Element.Matches, ih]

end Leaves

@[simp] theorem Fold.used_unfolded (container : Container) : Fold.used false container = none := rfl

@[simp] theorem Fold.used_nil (folding : Bool) : Fold.used folding ⟨.and, []⟩ = none := by
  cases folding <;> rfl

@[simp] theorem Fold.used_or (folding : Bool) (elements : List Element) :
    Fold.used folding ⟨.or, elements⟩ = none := by
  cases folding <;> rfl

/-- Without folds a container of criteria alone means all of them. -/
theorem Container.matches_leaves {reading : Reading} {criteria : List Criterion} {uri : String} :
    Container.Matches reading false ⟨.and, criteria.map .leaf⟩ uri ↔
      ∀ criterion ∈ criteria, criterion.Matches reading none uri := by
  simp only [Container.Matches, Container.Joins, Fold.used_unfolded, Element.matchesAll_leaves]
  constructor
  · intro affirmed criterion listed
    obtain ⟨-, every, -⟩ := affirmed
    obtain ⟨place, present⟩ := exists_place listed
    exact every _ present rfl
  · intro every
    exact ⟨rfl, fun x present _ => every x.1 (List.fst_mem_of_mem_zipIdx present), by simp⟩

theorem Fold.used_of_wanted {folding : Bool} {container : Container} {fold : Option Fold}
    (wanted : Fold.wanted folding container = .ok fold) : Fold.used folding container = fold := by
  rw [Fold.used, wanted]

namespace UriSet

/-- A set holds the known objects with a property, in the form that sets have. -/
structure Finds (reading : Reading) (found : UriSet) (meaning : String → Prop) : Prop where
  ascending : found.IsAscending
  mem_iff : ∀ uri, uri ∈ found ↔ reading.known uri ∧ meaning uri

namespace Finds

variable {reading : Reading} {a b : UriSet} {p q : String → Prop}

/-- Properties that known objects share are found alike. -/
theorem congr (found : Finds reading a p)
    (same : ∀ uri, reading.known uri → (p uri ↔ q uri)) : Finds reading a q where
  ascending := found.ascending
  mem_iff uri := by
    rw [found.mem_iff]
    exact and_congr_right (same uri)

theorem nil (none : ∀ uri, reading.known uri → ¬ p uri) : Finds reading [] p where
  ascending := ascending_nil
  mem_iff uri := by simpa using none uri

theorem inter (left : Finds reading a p) (right : Finds reading b q) :
    Finds reading (UriSet.inter a b) fun uri => p uri ∧ q uri where
  ascending := left.ascending.inter b
  mem_iff uri := by
    rw [mem_inter, left.mem_iff, right.mem_iff]
    constructor
    · intro both
      obtain ⟨⟨known, first⟩, -, second⟩ := both
      exact ⟨known, first, second⟩
    · intro both
      obtain ⟨known, first, second⟩ := both
      exact ⟨⟨known, first⟩, known, second⟩

theorem diff (left : Finds reading a p) (right : Finds reading b q) :
    Finds reading (UriSet.diff a b) fun uri => p uri ∧ ¬ q uri where
  ascending := left.ascending.diff b
  mem_iff uri := by
    rw [mem_diff, left.mem_iff, right.mem_iff]
    constructor
    · intro both
      obtain ⟨⟨known, first⟩, excluded⟩ := both
      exact ⟨known, first, fun second => excluded ⟨known, second⟩⟩
    · intro both
      obtain ⟨known, first, second⟩ := both
      exact ⟨⟨known, first⟩, fun both => second both.2⟩

theorem union (left : Finds reading a p) (right : Finds reading b q) :
    Finds reading (UriSet.union a b) fun uri => p uri ∨ q uri where
  ascending := ascending_union a b
  mem_iff uri := by
    rw [mem_union, left.mem_iff, right.mem_iff, and_or_left]

theorem none_of_isEmpty (found : Finds reading a p) (empty : a.isEmpty = true) :
    ∀ uri, reading.known uri → ¬ p uri := by
  intro uri known meaning
  have member := (found.mem_iff uri).2 ⟨known, meaning⟩
  rw [List.isEmpty_iff.1 empty] at member
  exact List.not_mem_nil member

/-- What a property finds is one set. -/
theorem unique (left : Finds reading a p) (right : Finds reading b q)
    (same : ∀ uri, reading.known uri → (p uri ↔ q uri)) : a = b :=
  left.ascending.ext right.ascending fun uri => by
    rw [left.mem_iff, right.mem_iff]
    exact and_congr_right (same uri)

end Finds

end UriSet

end GraphSegments
