import GraphSegments.Search.Leaf

/-!
Criteria as one statement: every leaf becomes a subquery on the same table, and containers join
them.
-/

namespace GraphSegments

/-- The fold of a container, where folding is wanted. -/
def Fold.wanted (folding : Bool) (container : Container) : Except Error (Option Fold) :=
  if folding then Fold.ofAnd container else .ok none

/-- A container that is nothing but one type criterion, where folding is wanted. -/
def Fold.typesWanted (folding : Bool) (container : Container) : Option TypeCriterion :=
  if folding then Fold.ofTypes container else none

namespace Container

def join (connective : Connective) (conditions : List Condition) : Condition :=
  match connective with
  | .and => .all conditions
  | .or => .any conditions

/-- Joins the clauses of a container's elements. A fold that no clause carries gets a clause of its
own; what cannot match is not asked. -/
def compose (folding : Bool) (container : Container)
    (clauses : Option Fold → Except Error (List Condition × Bool)) : Except Error Condition :=
  if container.elements.isEmpty then
    match container.connective with
    | .and => .ok (.all [])
    | .or => .ok (.all [.never])
  else do
    let fold ← Fold.wanted folding container
    if fold.any (·.unsatisfiable) then return .all [.never]
    else
      let (conditions, applied) ← clauses fold
      let remaining := if applied then [] else (fold.map fun fold => .among fold.condition).toList
      return join container.connective (conditions ++ remaining)

end Container

/-- The clause of one criterion. A criterion that excludes objects does not carry the fold. -/
def Criterion.clause (scope : LeafScope) (fold : Option Fold) (criterion : Criterion) :
    Except Error (Condition × Bool) := do
  if criterion.isSetNegation then
    return (.notAmong (← criterion.leafCondition scope none), false)
  else
    return (.among (← criterion.leafCondition scope fold), fold.isSome)

mutual

/-- The clause of an element, and whether it carries the fold. -/
def Element.clause (scope : LeafScope) (folding : Bool) (fold : Option Fold) :
    Element → Except Error (Condition × Bool)
  | .leaf criterion => criterion.clause scope fold
  | .nested connective elements =>
    match Fold.typesWanted folding ⟨connective, elements⟩ with
    | some criterion => (Criterion.type criterion).clause scope fold
    | none => do
      let condition ← Container.compose folding ⟨connective, elements⟩ fun fold =>
        Element.clauses scope folding fold 0 elements
      return (condition, false)

/-- The clauses of the elements that the fold does not cover, and whether one carries the fold. -/
def Element.clauses (scope : LeafScope) (folding : Bool) (fold : Option Fold) (place : Nat) :
    List Element → Except Error (List Condition × Bool)
  | [] => .ok ([], false)
  | element :: rest => do
    if fold.any (·.covers place) then Element.clauses scope folding fold (place + 1) rest
    else
      let (condition, applied) ← element.clause scope folding fold
      let (conditions, others) ← Element.clauses scope folding fold (place + 1) rest
      return (condition :: conditions, applied || others)

end

/-- The condition of a whole container. -/
def Container.condition (scope : LeafScope) (folding : Bool) (container : Container) :
    Except Error Condition :=
  container.compose folding fun fold => Element.clauses scope folding fold 0 container.elements

end GraphSegments
