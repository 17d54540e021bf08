import GraphSegments.Proofs.Agreement
import GraphSegments.Proofs.Sql.Placeholders
import GraphSegments.Search.Composition

/-!
The criteria of a tree that become part of its condition, once folds have taken theirs, and what
they leave behind there.
-/

namespace GraphSegments
open Results

/-! What a criterion leaves behind. -/

/-- Comparators that look for a part of a text, or for a pattern in it. -/
def Comparator.isSearch : Comparator → Bool
  | containsCaseInsensitive | containsCaseSensitive | regexp | regexpCaseSensitive => true
  | _ => false

/-- How many comparisons within texts a criterion becomes. -/
def Criterion.searches (criterion : Criterion) : Nat :=
  if criterion.comparator.isSearch then 1 else 0

theorem Condition.searchesAll_append (first second : List Condition) :
    searchesAll (first ++ second) = searchesAll first + searchesAll second := by
  induction first with
  | nil => exact (Nat.zero_add _).symm
  | cons condition rest ih => rw [List.cons_append, searchesAll, ih, searchesAll, Nat.add_assoc]

/-- Folds compare whole values. -/
theorem Fold.searches_condition (fold : Fold) : fold.condition.searches = 0 := by
  have types : Condition.searchesAll fold.typeConditions = 0 := by
    unfold typeConditions
    split <;> rfl
  have channel (filter : ChannelFilter) : (channelCondition filter).searches = 0 := by
    unfold channelCondition
    dsimp only
    split <;> rfl
  have channels : Condition.searchesAll (fold.channel.map channelCondition).toList = 0 := by
    cases fold.channel with
    | none => rfl
    | some filter => exact channel filter
  have bounds (inclusive exclusive : Comparison) (bound : Option TimestampBound) :
      Condition.searchesAll (bound.map (boundCondition inclusive exclusive)).toList = 0 := by
    cases bound <;> rfl
  unfold Fold.condition
  split
  next => rfl
  next =>
    simp only [Condition.searches, Condition.searchesAll_append, types, channels, bounds]

theorem PropertyCriterion.searches_nameCondition (criterion : PropertyCriterion) :
    criterion.nameCondition.searches = 0 := by
  unfold nameCondition
  split <;> rfl

theorem PropertyCriterion.searches_of_comparison {scope : LeafScope} {comparator : Comparator}
    {column : Column} {first : Value} {values : List Value} {condition : Condition}
    (compiled : comparison scope comparator column first values = .ok condition) :
    condition.searches = if comparator.isSearch then 1 else 0 := by
  have pattern {term : Term} {param : Param}
      (made : patternCondition scope term param = .ok condition) : condition.searches = 1 := by
    unfold patternCondition at made
    split at made
    next => cases made
    next => exact Except.ok.inj made ▸ rfl
  cases comparator with
  | containsCaseInsensitive | eqCaseInsensitive =>
    obtain ⟨_, -, made⟩ := bind_eq_ok.1 compiled
    exact Except.ok.inj made ▸ rfl
  | regexp =>
    obtain ⟨_, -, made⟩ := bind_eq_ok.1 compiled
    exact pattern made
  | regexpCaseSensitive => exact pattern compiled
  | _ => exact Except.ok.inj compiled ▸ rfl

theorem PropertyCriterion.searches_of_valueCondition? {scope : LeafScope}
    {criterion : PropertyCriterion} {demand : Option Condition}
    (compiled : criterion.valueCondition? scope = .ok demand) :
    Condition.searchesAll demand.toList = if criterion.comparator.isSearch then 1 else 0 := by
  unfold PropertyCriterion.valueCondition? at compiled
  split at compiled
  next valueless =>
    obtain rfl := Except.ok.inj compiled
    cases comparator : criterion.comparator <;> simp_all [Comparator.takesValue] <;> rfl
  next =>
    split at compiled
    next => cases compiled
    next first rest _ =>
      dsimp only at compiled
      split at compiled
      next => cases compiled
      next =>
        obtain ⟨condition, made, same⟩ := bind_eq_ok.1 compiled
        obtain rfl := Except.ok.inj same
        exact searches_of_comparison made

theorem TypeCriterion.searches_of_condition {criterion : TypeCriterion} {condition : Condition}
    (compiled : criterion.condition = .ok condition) :
    condition.searches = 0 ∧ criterion.comparator.isSearch = false := by
  unfold TypeCriterion.condition at compiled
  split at compiled
  next => cases compiled
  next =>
    cases comparator : criterion.comparator with
    | eq | ne | oneOf | noneOf =>
      rw [comparator] at compiled
      exact ⟨Except.ok.inj compiled ▸ rfl, rfl⟩
    | _ =>
      rw [comparator] at compiled
      cases compiled

namespace Criterion

variable {scope : LeafScope} {criterion : Criterion} {condition : Condition}

theorem searches_of_leafCondition {fold : Option Fold}
    (compiled : criterion.leafCondition scope fold = .ok condition) :
    condition.searches = criterion.searches := by
  obtain ⟨demand, made, same⟩ := bind_eq_ok.1 compiled
  obtain rfl := Except.ok.inj same
  have folded : Condition.searchesAll (fold.map (·.condition)).toList = 0 := by
    cases fold with
    | none => rfl
    | some fold => exact fold.searches_condition
  rw [Condition.searches, Condition.searchesAll_append, folded, Nat.zero_add, Condition.searchesAll]
  cases criterion with
  | property criterion =>
    rw [subject, criterion.searches_nameCondition, Nat.zero_add,
      PropertyCriterion.searches_of_valueCondition? made]
    rfl
  | type criterion =>
    obtain ⟨own, compared, same⟩ := bind_eq_ok.1 made
    obtain rfl := Except.ok.inj same
    obtain ⟨none, plain⟩ := TypeCriterion.searches_of_condition compared
    change 0 + (own.searches + 0) = if criterion.comparator.isSearch then 1 else 0
    rw [none, plain]
    rfl

theorem searches_of_probeCondition (compiled : criterion.probeCondition = .ok condition) :
    condition.searches = 0 := by
  cases criterion with
  | property criterion =>
    obtain rfl := Except.ok.inj compiled
    exact criterion.searches_nameCondition
  | type criterion =>
    obtain ⟨own, made, same⟩ := bind_eq_ok.1 compiled
    obtain rfl := Except.ok.inj same
    change 0 + (own.searches + 0) = 0
    rw [(TypeCriterion.searches_of_condition made).1]

theorem searches_of_clause {fold : Option Fold} {applied : Bool}
    (composed : criterion.clause scope fold = .ok (condition, applied)) :
    condition.searches = criterion.searches := by
  unfold Criterion.clause at composed
  split at composed <;>
    (obtain ⟨inner, compiled, same⟩ := bind_eq_ok.1 composed
     obtain ⟨rfl, -⟩ := Prod.mk.inj (Except.ok.inj same)
     exact (searches_of_leafCondition compiled : inner.searches = _))

end Criterion

/-! Which criteria become conditions. -/

/-- The criteria of a container that become conditions: none where the fold settles it, and
otherwise those that the fold leaves of its elements. -/
def Container.composed (folding : Bool) (container : Container)
    (left : Option Fold → List Criterion) : List Criterion :=
  if container.elements.isEmpty then []
  else
    match Fold.wanted folding container with
    | .error _ => []
    | .ok fold => if fold.any (·.unsatisfiable) then [] else left fold

mutual

/-- The criteria of an element that become conditions. -/
def Element.compiled (folding : Bool) : Element → List Criterion
  | .leaf criterion => [criterion]
  | .nested connective elements =>
    match Fold.typesWanted folding ⟨connective, elements⟩ with
    | some criterion => [.type criterion]
    | none =>
      Container.composed folding ⟨connective, elements⟩ fun fold =>
        Element.compiledAll folding fold 0 elements

/-- The criteria that become conditions of the elements that the fold does not cover. -/
def Element.compiledAll (folding : Bool) (fold : Option Fold) (place : Nat) :
    List Element → List Criterion
  | [] => []
  | element :: rest =>
    if fold.any (·.covers place) then Element.compiledAll folding fold (place + 1) rest
    else element.compiled folding ++ Element.compiledAll folding fold (place + 1) rest

end

/-- The criteria of a whole tree that become conditions. -/
def Container.compiled (folding : Bool) (container : Container) : List Criterion :=
  container.composed folding fun fold => Element.compiledAll folding fold 0 container.elements

/-! What a tree leaves behind. -/

/-- How many comparisons within texts criteria become. -/
def Criterion.searchesOf (criteria : List Criterion) : Nat := (criteria.map searches).sum

theorem Criterion.searchesOf_append (first second : List Criterion) :
    searchesOf (first ++ second) = searchesOf first + searchesOf second := by
  rw [searchesOf, List.map_append, List.sum_append]
  rfl

theorem Container.searches_join (connective : Connective) (conditions : List Condition) :
    (join connective conditions).searches = Condition.searchesAll conditions := by
  cases connective <;> rfl

/-- A container's condition has the comparisons within texts that its clauses have. -/
theorem Container.searches_of_compose {folding : Bool} {container : Container}
    {condition : Condition} {clauses : Option Fold → Except Error (List Condition × Bool)}
    {left : Option Fold → List Criterion} (made : container.compose folding clauses = .ok condition)
    (each : ∀ fold conditions applied, clauses fold = .ok (conditions, applied) →
      Condition.searchesAll conditions = Criterion.searchesOf (left fold)) :
    condition.searches = Criterion.searchesOf (container.composed folding left) := by
  obtain ⟨connective, elements⟩ := container
  unfold compose at made
  unfold composed
  split at made
  next empty =>
    rw [if_pos empty]
    cases connective <;> exact Except.ok.inj made ▸ rfl
  next filled =>
    rw [if_neg filled]
    obtain ⟨fold, wanted, made⟩ := bind_eq_ok.1 made
    rw [wanted]
    dsimp only
    split at made
    next unsatisfiable =>
      rw [if_pos unsatisfiable]
      exact Except.ok.inj made ▸ rfl
    next satisfiable =>
      obtain ⟨⟨conditions, applied⟩, composed, same⟩ := bind_eq_ok.1 made
      obtain rfl := Except.ok.inj same
      have remaining : Condition.searchesAll (if applied then [] else
          (fold.map fun fold => Condition.among fold.condition).toList) = 0 := by
        cases applied with
        | true => rfl
        | false =>
          cases fold with
          | none => rfl
          | some fold => exact fold.searches_condition
      rw [if_neg satisfiable, searches_join, Condition.searchesAll_append, remaining,
        each fold conditions applied composed, Nat.add_zero]

namespace Element

variable {scope : LeafScope} {folding : Bool}

mutual

theorem searches_of_clause {fold : Option Fold} {element : Element} {condition : Condition}
    {applied : Bool}
    (composed : element.clause scope folding fold = .ok (condition, applied)) :
    condition.searches = Criterion.searchesOf (element.compiled folding) := by
  match element with
  | .leaf criterion => exact Criterion.searches_of_clause composed
  | .nested connective elements =>
    unfold Element.clause at composed
    unfold Element.compiled
    generalize Fold.typesWanted folding ⟨connective, elements⟩ = wanted at composed ⊢
    cases wanted with
    | some criterion => exact Criterion.searches_of_clause composed
    | none =>
      obtain ⟨inner, made, same⟩ := bind_eq_ok.1 composed
      obtain ⟨rfl, -⟩ := Prod.mk.inj (Except.ok.inj same)
      exact Container.searches_of_compose made fun _ _ _ => searches_of_clauses

theorem searches_of_clauses {fold : Option Fold} {place : Nat} {elements : List Element}
    {conditions : List Condition} {applied : Bool}
    (composed : Element.clauses scope folding fold place elements = .ok (conditions, applied)) :
    Condition.searchesAll conditions =
      Criterion.searchesOf (Element.compiledAll folding fold place elements) := by
  match elements with
  | [] =>
    obtain ⟨rfl, -⟩ := Prod.mk.inj (Except.ok.inj composed)
    rfl
  | element :: rest =>
    unfold Element.clauses at composed
    unfold Element.compiledAll
    split at composed
    next covered =>
      rw [if_pos covered]
      exact searches_of_clauses composed
    next left =>
      obtain ⟨⟨condition, _⟩, first, composed⟩ := bind_eq_ok.1 composed
      obtain ⟨⟨others, _⟩, later, same⟩ := bind_eq_ok.1 composed
      obtain ⟨rfl, -⟩ := Prod.mk.inj (Except.ok.inj same)
      rw [if_neg left, Condition.searchesAll, searches_of_clause first, searches_of_clauses later,
        Criterion.searchesOf_append]

end

end Element

/-- A tree's condition has the comparisons within texts that its criteria become. -/
theorem Container.searches_of_condition {scope : LeafScope} {folding : Bool} {container : Container}
    {condition : Condition} (made : container.condition scope folding = .ok condition) :
    condition.searches = Criterion.searchesOf (container.compiled folding) :=
  searches_of_compose made fun _ _ _ => Element.searches_of_clauses

/-! Trees in two scopes. -/

/-- A scope in which some criteria become the conditions that they become in another one, and all
others fail. -/
def LeafScope.Narrows (scope other : LeafScope) (admits : Criterion → Prop) : Prop :=
  ∀ (criterion : Criterion) (fold : Option Fold), Restricts (admits criterion)
    (criterion.leafCondition scope fold) (criterion.leafCondition other fold)

section Scopes

variable {scope other : LeafScope} {admits : Criterion → Prop}

theorem Criterion.restricts_clause (narrows : scope.Narrows other admits) (criterion : Criterion)
    (fold : Option Fold) :
    Restricts (admits criterion) (criterion.clause scope fold) (criterion.clause other fold) := by
  unfold Criterion.clause
  split
  all_goals
    exact ((narrows criterion _).bind fun _ =>
      restricts_self trivial _).of_iff (and_iff_left trivial)

/-- A container is admitted with the criteria that become conditions. -/
theorem Container.restricts_compose (folding : Bool) (container : Container)
    {clauses clauses' : Option Fold → Except Error (List Condition × Bool)}
    {left : Option Fold → List Criterion}
    (each : ∀ fold, Restricts (∀ criterion ∈ left fold, admits criterion) (clauses fold)
      (clauses' fold)) :
    Restricts (∀ criterion ∈ container.composed folding left, admits criterion)
      (container.compose folding clauses) (container.compose folding clauses') := by
  unfold compose composed
  split
  next => exact restricts_self (by simp) _
  next =>
    cases Fold.wanted folding container with
    | error error => exact restricts_error _ error error
    | ok fold =>
      simp only [ok_bind]
      split
      next => exact restricts_self (by simp) _
      next =>
        exact ((each fold).bind fun _ => restricts_self trivial _).of_iff (and_iff_left trivial)

namespace Element

mutual

theorem restricts_clause (narrows : scope.Narrows other admits) (folding : Bool)
    (fold : Option Fold) (element : Element) :
    Restricts (∀ criterion ∈ element.compiled folding, admits criterion)
      (element.clause scope folding fold) (element.clause other folding fold) := by
  match element with
  | .leaf criterion =>
    exact (Criterion.restricts_clause narrows criterion fold).of_iff (by simp [compiled])
  | .nested connective elements =>
    unfold Element.clause compiled
    cases Fold.typesWanted folding ⟨connective, elements⟩ with
    | some criterion =>
      exact (Criterion.restricts_clause narrows (.type criterion) fold).of_iff (by simp)
    | none =>
      have inner := Container.restricts_compose folding ⟨connective, elements⟩ fun fold =>
        restricts_clauses narrows folding fold 0 elements
      exact (inner.bind fun _ => restricts_self trivial _).of_iff (and_iff_left trivial)

theorem restricts_clauses (narrows : scope.Narrows other admits) (folding : Bool)
    (fold : Option Fold) (place : Nat) (elements : List Element) :
    Restricts (∀ criterion ∈ compiledAll folding fold place elements, admits criterion)
      (Element.clauses scope folding fold place elements)
      (Element.clauses other folding fold place elements) := by
  match elements with
  | [] => exact restricts_self (by simp [compiledAll]) _
  | element :: rest =>
    unfold Element.clauses compiledAll
    split
    next => exact restricts_clauses narrows folding fold (place + 1) rest
    next =>
      refine ((restricts_clause narrows folding fold element).bind fun _ =>
        (restricts_clauses narrows folding fold (place + 1) rest).bind fun _ =>
          restricts_self trivial _).of_iff ?_
      simp only [List.forall_mem_append, and_true]

end

end Element

/-- A scope that admits some criteria only compiles the trees all of whose conditions come from
these. -/
theorem Container.restricts_condition (narrows : scope.Narrows other admits) (folding : Bool)
    (container : Container) :
    Restricts (∀ criterion ∈ container.compiled folding, admits criterion)
      (container.condition scope folding) (container.condition other folding) :=
  restricts_compose folding container fun fold =>
    Element.restricts_clauses narrows folding fold 0 container.elements

end Scopes

end GraphSegments
