import GraphSegments.Proofs.Search.Congruence
import GraphSegments.Proofs.Search.SetAlgebra

/-!
Searches are blind to differences between criteria that become the same conditions, are folded alike
and are probed alike. They find the same for trees that differ in such criteria only, or fail for
both.
-/

namespace GraphSegments
open Results Dialogue

namespace Dialogue

variable {α β γ δ : Type} {database : Database} {related : α → β → Prop} {further : γ → δ → Prop}

/-- Two dialogues end alike with a database: with related values, or in failure. -/
def EndAlike (database : Database) (related : α → β → Prop) (left : Dialogue α)
    (right : Dialogue β) : Prop :=
  Results.Agree related (left.run database) (right.run database)

theorem endAlike_same (dialogue : Dialogue α) : EndAlike database (· = ·) dialogue dialogue :=
  agree_self _

theorem endAlike_done {first : α} {second : β} (alike : related first second) :
    EndAlike database related (done first) (done second) := alike

theorem endAlike_pure {first : α} {second : β} (alike : related first second) :
    EndAlike database related (pure first) (pure second) := alike

theorem endAlike_ofExcept {first : Except Error α} {second : Except Error β}
    (agree : Results.Agree related first second) :
    EndAlike database related (ofExcept first) (ofExcept second) := by
  rwa [EndAlike, run_ofExcept, run_ofExcept]

theorem EndAlike.bind {left : Dialogue α} {right : Dialogue β} {next : α → Dialogue γ}
    {other : β → Dialogue δ} (first : EndAlike database related left right)
    (later : ∀ a b, related a b → EndAlike database further (next a) (other b)) :
    EndAlike database further (left >>= next) (right >>= other) := by
  unfold EndAlike
  rw [run_bind, run_bind]
  exact Results.Agree.bind first later

/-- After the same beginning, dialogues end alike if they do for whatever it comes to. -/
theorem endAlike_bind (dialogue : Dialogue α) {next : α → Dialogue γ} {other : α → Dialogue δ}
    (later : ∀ value, EndAlike database further (next value) (other value)) :
    EndAlike database further (dialogue >>= next) (dialogue >>= other) :=
  (endAlike_same dialogue).bind fun _ _ same => same ▸ later _

end Dialogue

namespace SegmentScope

/-- A search does not see a difference between related criteria. -/
structure IsBlindTo (scope : SegmentScope) (related : Criterion → Criterion → Prop) : Prop where
  leaf {first second : Criterion} (alike : related first second) (fold : Option Fold) :
    Agree (· = ·) (first.leafCondition scope.toLeafScope fold)
      (second.leafCondition scope.toLeafScope fold)
  probe {first second : Criterion} (alike : related first second) :
    Agree (· = ·) first.probeCondition second.probeCondition
  isSetNegation {first second : Criterion} (alike : related first second) :
    first.isSetNegation = second.isSetNegation
  wanted {connective : Connective} {elements others : List Element}
    (alike : Element.AllCorrespond related elements others) :
    Fold.wanted scope.folding ⟨connective, elements⟩ =
      Fold.wanted scope.folding ⟨connective, others⟩
  typesWanted {connective : Connective} {elements others : List Element}
    (alike : Element.AllCorrespond related elements others) :
    Fold.typesWanted scope.folding ⟨connective, elements⟩ =
      Fold.typesWanted scope.folding ⟨connective, others⟩
  probes {elements others : List Element}
    (alike : Element.AllCorrespond related elements others) (probing : scope.probing = true) :
    List.Forall₂ related (Container.probes ⟨.and, elements⟩) (Container.probes ⟨.and, others⟩)

/-- Searches that have come equally far, with related criteria still to be excluded. -/
def Progress.Alike (related : Criterion → Criterion → Prop) : Progress → Progress → Prop
  | .exhausted, .exhausted => True
  | .open matched excluding applied, .open matched' excluding' applied' =>
    matched = matched' ∧ List.Forall₂ related excluding excluding' ∧ applied = applied'
  | _, _ => False

variable {scope : SegmentScope} {database : Database}
  {related : Criterion → Criterion → Prop} (blind : scope.IsBlindTo related)
include blind

namespace IsBlindTo

theorem carries : scope.toLeafScope.Carries scope.folding related (· = ·) where
  congruence := Condition.isCongruence_eq
  leaf alike fold _ := blind.leaf alike fold
  isSetNegation := blind.isSetNegation
  wanted := blind.wanted
  typesWanted := blind.typesWanted

theorem endAlike_leaf {first second : Criterion} (alike : related first second)
    (fold : Option Fold) :
    EndAlike database (· = ·) (scope.leaf fold first) (scope.leaf fold second) := by
  refine (endAlike_ofExcept (blind.leaf alike fold)).bind fun condition _ same => ?_
  subst same
  exact endAlike_same _

theorem endAlike_probeEach {first second : List Criterion}
    (alike : List.Forall₂ related first second) :
    EndAlike database (· = ·) (scope.probeEach first) (scope.probeEach second) := by
  induction alike with
  | nil => exact endAlike_same _
  | cons head tail ih =>
    refine (endAlike_ofExcept (blind.probe head)).bind fun condition _ same => ?_
    subst same
    refine endAlike_bind _ fun found => ?_
    split
    next => exact endAlike_same _
    next => exact ih

theorem endAlike_probe {elements others : List Element}
    (alike : Element.AllCorrespond related elements others) :
    EndAlike database (· = ·) (scope.probe ⟨.and, elements⟩) (scope.probe ⟨.and, others⟩) := by
  unfold SegmentScope.probe
  split
  next probing => exact blind.endAlike_probeEach (blind.probes alike probing)
  next => exact endAlike_same _

theorem endAlike_exclude {first second : List Criterion}
    (alike : List.Forall₂ related first second) (matched : UriSet) :
    EndAlike database (· = ·) (scope.exclude matched first) (scope.exclude matched second) := by
  induction alike generalizing matched with
  | nil => exact endAlike_same _
  | cons head tail ih =>
    unfold exclude
    split
    next => exact endAlike_same _
    next =>
      refine (blind.endAlike_leaf head none).bind fun excluded _ same => ?_
      subst same
      exact ih _

theorem endAlike_conclude {first second : Progress} (alike : first.Alike related second)
    (fold : Option Fold) :
    EndAlike database (· = ·) (scope.conclude fold first) (scope.conclude fold second) := by
  match first, second with
  | .exhausted, .exhausted => exact endAlike_same _
  | .open matched excluding applied, .open _ _ _ =>
    obtain ⟨rfl, alike, rfl⟩ := alike
    match fold, applied, matched with
    | some _, false, _ | some _, true, some _ | none, _, some _ | some _, true, none
    | none, _, none => exact endAlike_bind _ (blind.endAlike_exclude alike)
  | .exhausted, .open .. | .open .., .exhausted => cases alike

theorem endAlike_conjunction {elements others : List Element}
    (alike : Element.AllCorrespond related elements others)
    {search search' : Option Fold → Dialogue Progress}
    (inner : ∀ fold, EndAlike database (Progress.Alike related) (search fold) (search' fold)) :
    EndAlike database (· = ·) (scope.conjunction elements search)
      (scope.conjunction others search') := by
  unfold conjunction
  refine (blind.endAlike_probe alike).bind fun there _ same => ?_
  subst same
  split
  next =>
    rw [blind.wanted alike]
    refine endAlike_bind _ fun fold => ?_
    split
    next => exact endAlike_same _
    next => exact (inner fold).bind fun _ _ alike => blind.endAlike_conclude alike fold
  next => exact endAlike_same _

theorem endAlike_searchSets_of {connective : Connective} {elements others : List Element}
    (alike : Element.AllCorrespond related elements others)
    (every : ∀ fold, EndAlike database (Progress.Alike related)
      (Element.searchAnd scope fold 0 none [] false elements)
      (Element.searchAnd scope fold 0 none [] false others))
    (some : EndAlike database (· = ·) (Element.searchOr scope [] elements)
      (Element.searchOr scope [] others)) :
    EndAlike database (· = ·) (scope.searchSets ⟨connective, elements⟩)
      (scope.searchSets ⟨connective, others⟩) := by
  match connective, elements, others with
  | .and, [], [] | .or, [], [] => exact endAlike_same _
  | .and, _ :: _, _ :: _ => exact blind.endAlike_conjunction alike every
  | .or, _ :: _, _ :: _ => exact some
  | _, [], _ :: _ | _, _ :: _, [] => cases alike

end IsBlindTo

end SegmentScope

open SegmentScope

namespace Element

variable {scope : SegmentScope} {database : Database} {related : Criterion → Criterion → Prop}

/-! Set algebra. -/

mutual

theorem endAlike_search (blind : scope.IsBlindTo related)
    {element other : Element} (alike : element.Corresponds related other)
    (fold : Option Fold) :
    EndAlike database (· = ·) (element.search scope fold) (other.search scope fold) := by
  match element, other with
  | .leaf criterion, .leaf second =>
    rw [Element.search, Element.search]
    refine (blind.endAlike_leaf alike fold).bind fun found _ same => ?_
    exact endAlike_pure (congrArg (·, fold.isSome) same)
  | .nested connective elements, .nested _ others =>
    obtain ⟨rfl, alike⟩ := alike
    rw [search_nested, search_nested, blind.typesWanted alike]
    split
    next => exact endAlike_same _
    next =>
      exact (blind.endAlike_searchSets_of alike
        (fun fold => endAlike_searchAnd blind alike fold 0 none .nil false)
        (endAlike_searchOr blind alike [])).bind fun _ _ same =>
          endAlike_pure (congrArg (·, false) same)
  | .leaf _, .nested .. | .nested .., .leaf _ => cases alike

theorem endAlike_searchAnd (blind : scope.IsBlindTo related)
    {elements others : List Element}
    (alike : AllCorrespond related elements others) (fold : Option Fold) (place : Nat)
    (matched : Option UriSet) {excluding excluding' : List Criterion}
    (excluded : List.Forall₂ related excluding excluding') (applied : Bool) :
    EndAlike database (Progress.Alike related)
      (Element.searchAnd scope fold place matched excluding applied elements)
      (Element.searchAnd scope fold place matched excluding' applied others) := by
  match elements, others with
  | [], [] => exact endAlike_done ⟨rfl, excluded, rfl⟩
  | element :: rest, other :: others =>
    obtain ⟨first, alike⟩ := alike
    have further (matched : Option UriSet) {excluding excluding' : List Criterion}
        (excluded : List.Forall₂ related excluding excluding') (applied : Bool) :=
      endAlike_searchAnd blind alike fold (place + 1) matched excluded applied
    cases covered : fold.any (·.covers place) with
    | true =>
      rw [searchAnd_covered covered, searchAnd_covered covered]
      exact further matched excluded applied
    | false =>
      match element, other with
      | .leaf criterion, .leaf second =>
        rw [searchAnd_leaf covered, searchAnd_leaf covered, blind.isSetNegation first]
        split
        next => exact further matched (List.rel_append excluded (.cons first .nil)) applied
        next =>
          refine (blind.endAlike_leaf first fold).bind fun found _ same => ?_
          subst same
          split
          next => exact endAlike_pure trivial
          next => exact further _ excluded _
      | .nested connective elements, .nested other others =>
        rw [searchAnd_nested covered, searchAnd_nested covered]
        refine (endAlike_search blind first fold).bind fun found _ same => ?_
        subst same
        dsimp only
        split
        next => exact endAlike_pure trivial
        next => exact further _ excluded _
      | .leaf _, .nested .. | .nested .., .leaf _ => cases first
  | [], _ :: _ | _ :: _, [] => cases alike

theorem endAlike_searchOr (blind : scope.IsBlindTo related)
    {elements others : List Element}
    (alike : AllCorrespond related elements others) (matched : UriSet) :
    EndAlike database (· = ·) (Element.searchOr scope matched elements)
      (Element.searchOr scope matched others) := by
  match elements, others with
  | [], [] => exact endAlike_same _
  | element :: rest, other :: others =>
    obtain ⟨first, alike⟩ := alike
    rw [Element.searchOr, Element.searchOr]
    refine (endAlike_search blind first none).bind fun found _ same => ?_
    subst same
    match element, other with
    | .leaf criterion, .leaf second =>
      dsimp only
      rw [blind.isSetNegation first]
      split
      next => exact endAlike_bind _ fun all => endAlike_searchOr blind alike _
      next => exact endAlike_searchOr blind alike _
    | .nested .., .nested .. => exact endAlike_searchOr blind alike _
    | .leaf _, .nested .. | .nested .., .leaf _ => cases first
  | [], _ :: _ | _ :: _, [] => cases alike

end

/-! One statement. -/

mutual

theorem endAlike_probeNested (blind : scope.IsBlindTo related)
    {element other : Element} (alike : element.Corresponds related other) :
    EndAlike database (· = ·) (element.probeNested scope) (other.probeNested scope) := by
  match element, other with
  | .leaf _, .leaf _ => exact endAlike_same _
  | .nested .or _, .nested _ _ =>
    obtain ⟨rfl, alike⟩ := alike
    exact endAlike_same _
  | .nested .and elements, .nested _ others =>
    obtain ⟨rfl, alike⟩ := alike
    rw [probeNested, probeNested]
    refine (blind.endAlike_probe alike).bind fun there _ same => ?_
    subst same
    split
    next => exact endAlike_probeNestedAll blind alike
    next => exact endAlike_same _
  | .leaf _, .nested .. | .nested .., .leaf _ => cases alike

theorem endAlike_probeNestedAll (blind : scope.IsBlindTo related)
    {elements others : List Element}
    (alike : AllCorrespond related elements others) :
    EndAlike database (· = ·) (probeNestedAll scope elements) (probeNestedAll scope others) := by
  match elements, others with
  | [], [] => exact endAlike_same _
  | element :: rest, other :: others =>
    rw [probeNestedAll, probeNestedAll]
    refine (endAlike_probeNested blind alike.1).bind fun there _ same => ?_
    subst same
    split
    next => exact endAlike_probeNestedAll blind alike.2
    next => exact endAlike_same _
  | [], _ :: _ | _ :: _, [] => cases alike

end

end Element

/-- Where a search is blind to the differences between two trees, it finds the same for both, or
fails for both. -/
theorem SegmentScope.IsBlindTo.search {scope : SegmentScope} {database : Database}
    {related : Criterion → Criterion → Prop} (blind : scope.IsBlindTo related)
    {first second : Container} (alike : first.Corresponds related second) (mode : ExecutionMode) :
    EndAlike database (· = ·) (scope.search mode first) (scope.search mode second) := by
  obtain ⟨connective, elements⟩ := first
  obtain ⟨_, others⟩ := second
  obtain ⟨rfl, alike⟩ := alike
  cases mode with
  | setAlgebra =>
    exact blind.endAlike_searchSets_of alike
      (fun fold => Element.endAlike_searchAnd blind alike fold 0 none .nil false)
      (Element.endAlike_searchOr blind alike [])
  | singleStatement =>
    have root : (Container.asElement ⟨connective, elements⟩).Corresponds related
        (Container.asElement ⟨connective, others⟩) := ⟨rfl, alike⟩
    refine (Element.endAlike_probeNested blind root).bind fun there _ same => ?_
    subst same
    split
    next =>
      have composed : Agree (· = ·)
          (Container.condition scope.toLeafScope scope.folding ⟨connective, elements⟩)
          (Container.condition scope.toLeafScope scope.folding ⟨connective, others⟩) :=
        blind.carries.agree_condition ⟨rfl, alike⟩
      refine (endAlike_ofExcept composed).bind fun condition _ same => ?_
      subst same
      exact endAlike_same _
    next => exact endAlike_same _

end GraphSegments
