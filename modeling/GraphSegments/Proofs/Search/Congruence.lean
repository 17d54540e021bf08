import GraphSegments.Proofs.Criteria.Correspondence
import GraphSegments.Search.Composition
import Mathlib.Data.List.Forall2

/-!
Criteria compose into statements congruently: trees whose criteria become conditions that are the
same in some respect become statements that are the same in that respect.
-/

namespace GraphSegments
open Results

/-- A way of being the same that goes through everything that conditions are composed by. -/
structure Condition.IsCongruence (same : Condition → Condition → Prop) : Prop where
  refl (condition : Condition) : same condition condition
  among {first second : Condition} (alike : same first second) :
    same (.among first) (.among second)
  notAmong {first second : Condition} (alike : same first second) :
    same (.notAmong first) (.notAmong second)
  join {first second : List Condition} (alike : List.Forall₂ same first second)
    (connective : Connective) :
    same (Container.join connective first) (Container.join connective second)

theorem Condition.isCongruence_eq : Condition.IsCongruence (· = ·) where
  refl _ := rfl
  among alike := congrArg Condition.among alike
  notAmong alike := congrArg Condition.notAmong alike
  join alike connective := by
    rw [List.forall₂_eq_eq_eq] at alike
    rw [alike]

/-- Related criteria become conditions that are the same in some respect, with the folds that they
may carry, and they are folded alike. -/
structure LeafScope.Carries (scope : LeafScope) (folding : Bool)
    (related : Criterion → Criterion → Prop) (same : Condition → Condition → Prop) : Prop where
  congruence : Condition.IsCongruence same
  leaf {first second : Criterion} (alike : related first second) (fold : Option Fold)
    (used : fold.isSome = true → folding = true) :
    Agree same (first.leafCondition scope fold) (second.leafCondition scope fold)
  isSetNegation {first second : Criterion} (alike : related first second) :
    first.isSetNegation = second.isSetNegation
  wanted {connective : Connective} {elements others : List Element}
    (alike : Element.AllCorrespond related elements others) :
    Fold.wanted folding ⟨connective, elements⟩ = Fold.wanted folding ⟨connective, others⟩
  typesWanted {connective : Connective} {elements others : List Element}
    (alike : Element.AllCorrespond related elements others) :
    Fold.typesWanted folding ⟨connective, elements⟩ = Fold.typesWanted folding ⟨connective, others⟩

theorem Fold.folding_of_wanted {folding : Bool} {container : Container} {fold : Option Fold}
    (wanted : Fold.wanted folding container = .ok fold) (used : fold.isSome = true) :
    folding = true := by
  unfold Fold.wanted at wanted
  split at wanted
  next folding => exact folding
  next =>
    obtain rfl := Except.ok.inj wanted
    cases used

namespace LeafScope.Carries

variable {scope : LeafScope} {folding : Bool} {related : Criterion → Criterion → Prop}
  {same : Condition → Condition → Prop} (carries : scope.Carries folding related same)
include carries

theorem agree_leafClause {first second : Criterion} (alike : related first second)
    {fold : Option Fold} (used : fold.isSome = true → folding = true) :
    Agree (fun a b => same a.1 b.1 ∧ a.2 = b.2) (first.clause scope fold)
      (second.clause scope fold) := by
  unfold Criterion.clause
  rw [carries.isSetNegation alike]
  split
  next =>
    exact (carries.leaf alike none nofun).bind fun _ _ alike =>
      ⟨carries.congruence.notAmong alike, rfl⟩
  next =>
    exact (carries.leaf alike fold used).bind fun _ _ alike =>
      ⟨carries.congruence.among alike, rfl⟩

/-- Containers compose alike where their clauses do. -/
theorem agree_compose {connective : Connective} {elements others : List Element}
    (alike : Element.AllCorrespond related elements others)
    {clauses clauses' : Option Fold → Except Error (List Condition × Bool)}
    (inner : ∀ fold, (fold.isSome = true → folding = true) →
      Agree (fun a b => List.Forall₂ same a.1 b.1 ∧ a.2 = b.2) (clauses fold) (clauses' fold)) :
    Agree same (Container.compose folding ⟨connective, elements⟩ clauses)
      (Container.compose folding ⟨connective, others⟩ clauses') := by
  unfold Container.compose
  dsimp only
  rw [alike.isEmpty, carries.wanted alike]
  split
  next => cases connective <;> exact carries.congruence.refl _
  next =>
    cases wanted : Fold.wanted folding ⟨connective, others⟩ with
    | error error => trivial
    | ok fold =>
      rw [ok_bind, ok_bind]
      split
      next => exact carries.congruence.refl _
      next =>
        refine (inner fold (Fold.folding_of_wanted wanted)).bind fun first second both => ?_
        obtain ⟨alike, applied⟩ := both
        refine carries.congruence.join (List.rel_append alike ?_) connective
        rw [applied]
        exact List.forall₂_same.2 fun condition _ => carries.congruence.refl condition

end LeafScope.Carries

namespace Element

variable {scope : LeafScope} {folding : Bool} {related : Criterion → Criterion → Prop}
  {same : Condition → Condition → Prop}

mutual

theorem agree_clause (carries : scope.Carries folding related same) {element other : Element}
    (alike : element.Corresponds related other) {fold : Option Fold}
    (used : fold.isSome = true → folding = true) :
    Agree (fun a b => same a.1 b.1 ∧ a.2 = b.2) (element.clause scope folding fold)
      (other.clause scope folding fold) := by
  match element, other with
  | .leaf _, .leaf _ => exact carries.agree_leafClause alike used
  | .nested connective elements, .nested _ others =>
    obtain ⟨rfl, alike⟩ := alike
    unfold Element.clause
    rw [carries.typesWanted alike]
    split
    next =>
      exact (agree_self _).mono fun a b equal => equal ▸ ⟨carries.congruence.refl _, rfl⟩
    next =>
      exact (carries.agree_compose alike fun _ used => agree_clauses carries alike used 0).bind
        fun _ _ alike => ⟨alike, rfl⟩
  | .leaf _, .nested .. | .nested .., .leaf _ => cases alike

theorem agree_clauses (carries : scope.Carries folding related same)
    {elements others : List Element} (alike : AllCorrespond related elements others)
    {fold : Option Fold} (used : fold.isSome = true → folding = true) (place : Nat) :
    Agree (fun a b => List.Forall₂ same a.1 b.1 ∧ a.2 = b.2)
      (Element.clauses scope folding fold place elements)
      (Element.clauses scope folding fold place others) := by
  match elements, others with
  | [], [] => exact ⟨.nil, rfl⟩
  | element :: rest, other :: others =>
    obtain ⟨first, alike⟩ := alike
    have later := agree_clauses carries alike used (place + 1)
    unfold Element.clauses
    split
    next => exact later
    next =>
      exact (agree_clause carries first used).bind fun _ _ first => later.bind fun _ _ later =>
        ⟨.cons first.1 later.1, congrArg₂ (· || ·) first.2 later.2⟩
  | [], _ :: _ | _ :: _, [] => cases alike

end

end Element

/-- Trees that correspond become statements that are the same as far as the conditions are that
their criteria become, or neither becomes one. -/
theorem LeafScope.Carries.agree_condition {scope : LeafScope} {folding : Bool}
    {related : Criterion → Criterion → Prop} {same : Condition → Condition → Prop}
    (carries : scope.Carries folding related same) {first second : Container}
    (alike : first.Corresponds related second) :
    Agree same (first.condition scope folding) (second.condition scope folding) := by
  obtain ⟨connective, elements⟩ := first
  obtain ⟨_, others⟩ := second
  obtain ⟨rfl, alike⟩ := alike
  exact carries.agree_compose alike fun _ used => Element.agree_clauses carries alike used 0

end GraphSegments
