import GraphSegments.Proofs.Results
import GraphSegments.Proofs.Search.Reading

/-!
Searching by one statement: the condition composed for a container holds of the rows of the objects
that match.
-/

namespace GraphSegments
open Results

/-! What a composed condition is made of. -/

theorem Criterion.clause_eq_ok {scope : LeafScope} {fold : Option Fold} {criterion : Criterion}
    {condition : Condition} {applied : Bool}
    (composed : criterion.clause scope fold = .ok (condition, applied)) :
    (criterion.isSetNegation = true ∧ applied = false ∧ ∃ inner,
      criterion.leafCondition scope none = .ok inner ∧ condition = .notAmong inner) ∨
    (criterion.isSetNegation = false ∧ applied = fold.isSome ∧ ∃ inner,
      criterion.leafCondition scope fold = .ok inner ∧ condition = .among inner) := by
  unfold Criterion.clause at composed
  split at composed
  next negative =>
    obtain ⟨inner, compiled, same⟩ := bind_eq_ok.1 composed
    obtain ⟨rfl, rfl⟩ := Prod.mk.inj (Except.ok.inj same)
    exact .inl ⟨negative, rfl, inner, compiled, rfl⟩
  next positive =>
    obtain ⟨inner, compiled, same⟩ := bind_eq_ok.1 composed
    obtain ⟨rfl, rfl⟩ := Prod.mk.inj (Except.ok.inj same)
    exact .inr ⟨by simpa using positive, rfl, inner, compiled, rfl⟩

namespace Element

variable {scope : LeafScope} {folding : Bool} {fold : Option Fold} {place : Nat}

theorem clause_nested (connective : Connective) (elements : List Element) :
    (Element.nested connective elements).clause scope folding fold =
      match Fold.typesWanted folding ⟨connective, elements⟩ with
      | some criterion => (Criterion.type criterion).clause scope fold
      | none => (Container.condition scope folding ⟨connective, elements⟩).map (·, false) := by
  rw [Element.clause]
  cases Fold.typesWanted folding ⟨connective, elements⟩ with
  | some criterion => rfl
  | none => rfl

theorem clauses_covered (covered : fold.any (·.covers place) = true) (element : Element)
    (rest : List Element) :
    clauses scope folding fold place (element :: rest) =
      clauses scope folding fold (place + 1) rest := by
  simp [clauses, covered]

theorem clauses_uncovered (covered : fold.any (·.covers place) = false) {element : Element}
    {rest : List Element} {conditions : List Condition} {applied : Bool}
    (composed : clauses scope folding fold place (element :: rest) = .ok (conditions, applied)) :
    ∃ condition others first later, element.clause scope folding fold = .ok (condition, first) ∧
      clauses scope folding fold (place + 1) rest = .ok (others, later) ∧
      conditions = condition :: others ∧ applied = (first || later) := by
  rw [clauses, covered] at composed
  obtain ⟨⟨condition, first⟩, head, composed⟩ := bind_eq_ok.1 composed
  obtain ⟨⟨others, later⟩, tail, composed⟩ := bind_eq_ok.1 composed
  obtain ⟨rfl, rfl⟩ := Prod.mk.inj (Except.ok.inj composed)
  exact ⟨condition, others, first, later, head, tail, rfl, rfl⟩

end Element

/-- A container with elements is composed with its fold: a contradictory fold is all there is to
ask, and one that no clause carries gets a clause of its own. -/
theorem Container.condition_cons {scope : LeafScope} {folding : Bool} {connective : Connective}
    {first : Element} {rest : List Element} {condition : Condition}
    (composed : Container.condition scope folding ⟨connective, first :: rest⟩ = .ok condition) :
    ∃ fold, Fold.wanted folding ⟨connective, first :: rest⟩ = .ok fold ∧
      ((fold.any (·.unsatisfiable) = true ∧ condition = .all [.never]) ∨
      (fold.any (·.unsatisfiable) = false ∧ ∃ conditions applied,
        Element.clauses scope folding fold 0 (first :: rest) = .ok (conditions, applied) ∧
        condition = Container.join connective (conditions ++
          if applied then [] else (fold.map fun fold => .among fold.condition).toList))) := by
  simp only [Container.condition, Container.compose, List.isEmpty_cons, Bool.false_eq_true,
    ite_false] at composed
  obtain ⟨fold, wanted, composed⟩ := bind_eq_ok.1 composed
  refine ⟨fold, wanted, ?_⟩
  split at composed
  next unsatisfiable => exact .inl ⟨unsatisfiable, (Except.ok.inj composed).symm⟩
  next satisfiable =>
    obtain ⟨⟨conditions, applied⟩, clauses, composed⟩ := bind_eq_ok.1 composed
    exact .inr ⟨by simpa using satisfiable, conditions, applied, clauses,
      (Except.ok.inj composed).symm⟩

/-! What has been composed holds of the rows of the objects that match. -/

section Meaning

variable {scope : LeafScope} {folding : Bool} {patterns : Patterns} {records : List Record}
  {reading : Reading} (describes : reading.Describes scope patterns records) {record : Record}
include describes

theorem Criterion.holds_clause {fold : Option Fold} {criterion : Criterion} {condition : Condition}
    {applied : Bool} (composed : criterion.clause scope fold = .ok (condition, applied)) :
    condition.holds patterns records record = true ↔
      criterion.Matches reading fold record.uri := by
  rcases clause_eq_ok composed with
    ⟨negative, -, inner, compiled, rfl⟩ | ⟨positive, -, inner, compiled, rfl⟩
  · rw [Condition.holds_notAmong, Criterion.Matches, if_pos negative, describes.leaf compiled]
  · rw [Condition.holds_among, Criterion.Matches, positive, describes.leaf compiled]
    simp

theorem Container.holds_condition_of {connective : Connective} {elements : List Element}
    {condition : Condition}
    (composed : Container.condition scope folding ⟨connective, elements⟩ = .ok condition)
    (parts : ∀ fold conditions applied,
      Element.clauses scope folding fold 0 elements = .ok (conditions, applied) →
      applied = Element.carriesAny folding fold 0 elements ∧
      ((∀ part ∈ conditions, part.holds patterns records record = true) ↔
        Element.MatchesAll reading folding fold record.uri 0 elements) ∧
      (fold = none → ((∃ part ∈ conditions, part.holds patterns records record = true) ↔
        Element.MatchesSome reading folding record.uri elements))) :
    condition.holds patterns records record = true ↔
      Container.Matches reading folding ⟨connective, elements⟩ record.uri := by
  match connective, elements with
  | .and, [] =>
    obtain rfl := Except.ok.inj composed
    simp [Condition.holds_all, Container.Matches, Container.Joins, Element.MatchesAll]
  | .or, [] =>
    obtain rfl := Except.ok.inj composed
    simp [Condition.holds, Container.Matches, Container.Joins, Element.MatchesSome]
  | .and, first :: rest =>
    obtain ⟨fold, wanted, composed⟩ := Container.condition_cons composed
    have used : Fold.used folding ⟨.and, first :: rest⟩ = fold := Fold.used_of_wanted wanted
    rcases composed with ⟨unsatisfiable, rfl⟩ | ⟨satisfiable, conditions, applied, clauses, rfl⟩
    · simp [Condition.holds, Container.Matches, Container.Joins, used, unsatisfiable]
    · obtain ⟨rfl, every, -⟩ := parts fold conditions applied clauses
      simp only [Container.join, Condition.holds_all, List.mem_append, or_imp, forall_and, every,
        Container.Matches, Container.Joins, used, satisfiable, true_and]
      apply and_congr_right
      intro _
      cases fold with
      | none => simp
      | some fold =>
        cases carried : Element.carriesAny folding (some fold) 0 (first :: rest) with
        | true => simp
        | false => simp [Condition.holds_among, describes.fold]
  | .or, first :: rest =>
    obtain ⟨fold, wanted, composed⟩ := Container.condition_cons composed
    obtain rfl : none = fold := by rw [← Fold.used_of_wanted wanted, Fold.used_or]
    rcases composed with ⟨unsatisfiable, -⟩ | ⟨-, conditions, applied, clauses, rfl⟩
    · simp at unsatisfiable
    · obtain ⟨-, -, some⟩ := parts none conditions applied clauses
      simpa [Container.join, Condition.holds_any, Container.Matches, Container.Joins] using
        some rfl

set_option linter.unusedSectionVars false

mutual

theorem Element.holds_clause (element : Element) {fold : Option Fold} {condition : Condition}
    {applied : Bool} (composed : element.clause scope folding fold = .ok (condition, applied)) :
    applied = element.carries folding fold ∧
      (condition.holds patterns records record = true ↔
        element.Matches reading folding fold record.uri) := by
  match element with
  | .leaf criterion =>
    refine ⟨?_, Criterion.holds_clause describes composed⟩
    rcases Criterion.clause_eq_ok composed with ⟨negative, rfl, -⟩ | ⟨positive, rfl, -⟩
    · simp [Element.carries, negative]
    · simp [Element.carries, positive]
  | .nested connective elements =>
    rw [Element.clause_nested] at composed
    rw [Element.carries, Element.matches_nested]
    cases read : Fold.typesWanted folding ⟨connective, elements⟩ with
    | some criterion =>
      simp only [read] at composed ⊢
      refine ⟨?_, Criterion.holds_clause describes composed⟩
      rcases Criterion.clause_eq_ok composed with ⟨negative, -⟩ | ⟨-, rfl, -⟩
      · exact absurd negative Bool.false_ne_true
      · rfl
    | none =>
      simp only [read] at composed ⊢
      obtain ⟨inner, joined, same⟩ := map_eq_ok.1 composed
      obtain ⟨rfl, rfl⟩ := Prod.mk.inj same
      refine ⟨rfl, Container.holds_condition_of describes joined ?_⟩
      exact fun fold conditions applied clauses => Element.holds_clauses elements clauses

theorem Element.holds_clauses (elements : List Element) {fold : Option Fold} {place : Nat}
    {conditions : List Condition} {applied : Bool}
    (composed : Element.clauses scope folding fold place elements = .ok (conditions, applied)) :
    applied = Element.carriesAny folding fold place elements ∧
    ((∀ part ∈ conditions, part.holds patterns records record = true) ↔
      Element.MatchesAll reading folding fold record.uri place elements) ∧
    (fold = none → ((∃ part ∈ conditions, part.holds patterns records record = true) ↔
      Element.MatchesSome reading folding record.uri elements)) := by
  match elements with
  | [] =>
    obtain ⟨rfl, rfl⟩ := Prod.mk.inj (Except.ok.inj composed)
    simp [Element.carriesAny, Element.MatchesAll, Element.MatchesSome]
  | element :: rest =>
    cases covered : fold.any (·.covers place) with
    | true =>
      rw [Element.clauses_covered covered] at composed
      obtain ⟨rfl, every, -⟩ := Element.holds_clauses rest composed
      refine ⟨by simp [Element.carriesAny, covered], by simp [Element.MatchesAll, covered, every],
        ?_⟩
      intro same
      obtain rfl := same
      simp at covered
    | false =>
      obtain ⟨condition, others, first, later, head, tail, rfl, rfl⟩ :=
        Element.clauses_uncovered covered composed
      obtain ⟨rfl, here⟩ := Element.holds_clause element head
      obtain ⟨rfl, every, some⟩ := Element.holds_clauses rest tail
      refine ⟨by simp [Element.carriesAny, covered], ?_, ?_⟩
      · simp [Element.MatchesAll, covered, here, every]
      · intro same
        obtain rfl := same
        simp [Element.MatchesSome, here, some rfl]

end

/-- A composed condition holds of the rows of exactly the objects that match. -/
theorem Container.selects_condition {container : Container} {condition : Condition}
    (composed : container.condition scope folding = .ok condition) (uri : String) :
    condition.Selects patterns records uri ↔
      reading.known uri ∧ container.Matches reading folding uri := by
  have holds (record : Record) : condition.holds patterns records record = true ↔
      container.Matches reading folding record.uri :=
    holds_condition_of describes composed fun fold conditions applied clauses =>
      Element.holds_clauses describes container.elements clauses
  rw [describes.known]
  constructor
  · intro listed
    obtain ⟨record, member, rfl, selected⟩ := listed
    exact ⟨⟨record, member, rfl⟩, (holds record).1 selected⟩
  · intro kept
    obtain ⟨⟨record, member, rfl⟩, matching⟩ := kept
    exact ⟨record, member, rfl, (holds record).2 matching⟩

end Meaning

end GraphSegments
