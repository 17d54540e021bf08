import GraphSegments.Search.Composition
import GraphSegments.Search.Dialogue
import GraphSegments.Search.UriSet
import GraphSegments.Sql.Depth

/-!
Which objects of a segment match: either by one statement for each criterion and set algebra on
the answers, or by one statement for all of them. Both can be preceded by probes, which ask for a
single row of each criterion.
-/

namespace GraphSegments

/-- How criteria are put to the database. -/
inductive ExecutionMode where
  | setAlgebra | singleStatement
  deriving DecidableEq, Repr, Inhabited

/-- Where and how one segment is searched. -/
structure SegmentScope extends LeafScope where
  table : String
  /-- The place of the segment in the query. -/
  place : Nat
  probing : Bool
  folding : Bool

namespace SegmentScope

/-- Asks for URIs and takes a note. -/
def ask (label : String) (select : Select) : Dialogue (List String) := do
  let found ← Dialogue.askUris select
  Dialogue.take label (.statement select)
  return found

/-- The objects that satisfy the positive form of a criterion. -/
def leaf (scope : SegmentScope) (fold : Option Fold) (criterion : Criterion) :
    Dialogue UriSet := do
  let condition ← Dialogue.ofExcept (criterion.leafCondition scope.toLeafScope fold)
  let found ← ask "LEAF" (.objects scope.table condition)
  return UriSet.ofList found

/-- All objects of the segment. -/
def every (scope : SegmentScope) : Dialogue UriSet := do
  let found ← Dialogue.askEvery scope.place scope.table
  return UriSet.ofList found

/-- Whether every one of some criteria has a row. The first that has none ends the probing. -/
def probeEach (scope : SegmentScope) : List Criterion → Dialogue Bool
  | [] => .done true
  | criterion :: rest => do
    let condition ← Dialogue.ofExcept criterion.probeCondition
    let found ← ask "PROBE" (.oneRow scope.table condition)
    if found.isEmpty then return false else scope.probeEach rest

/-- Probes a container, where probing is wanted. -/
def probe (scope : SegmentScope) (container : Container) : Dialogue Bool :=
  if scope.probing then scope.probeEach container.probes else .done true

/-- How far the elements of an AND container have been searched. -/
inductive Progress where
  /-- Nothing matches any more. -/
  | exhausted
  /-- The objects that match so far, the criteria that exclude, and whether the fold was asked. -/
  | open (matched : Option UriSet) (excluding : List Criterion) (applied : Bool)

/-- Takes the objects that a criterion excludes out of the matches, as long as there are any. -/
def exclude (scope : SegmentScope) (matched : UriSet) : List Criterion → Dialogue UriSet
  | [] => .done matched
  | criterion :: rest => do
    if matched.isEmpty then return matched
    else
      let excluded ← scope.leaf none criterion
      scope.exclude (UriSet.diff matched excluded) rest

/-- The matches together with the fold, where no leaf has carried it. -/
def matchFold (scope : SegmentScope) (fold : Fold) (matched : Option UriSet) :
    Dialogue UriSet := do
  let found ← ask "FOLD" (.objects scope.table fold.condition)
  let folded := UriSet.ofList found
  match matched with
  | some matched => return UriSet.inter matched folded
  | none => return folded

/-- Completes the search of an AND container. -/
def conclude (scope : SegmentScope) (fold : Option Fold) : Progress → Dialogue UriSet
  | .exhausted => .done []
  | .open matched excluding applied => do
    let matched ←
      match fold, applied, matched with
      | some fold, false, matched => scope.matchFold fold matched
      | _, _, some matched => pure matched
      | _, _, none => scope.every
    scope.exclude matched excluding

/-- Searches an AND container that has elements; `search` goes through them. -/
def conjunction (scope : SegmentScope) (elements : List Element)
    (search : Option Fold → Dialogue Progress) : Dialogue UriSet := do
  if ← scope.probe ⟨.and, elements⟩ then
    let fold ← Dialogue.ofExcept (Fold.wanted scope.folding ⟨.and, elements⟩)
    if fold.any (·.unsatisfiable) then return []
    else scope.conclude fold (← search fold)
  else return []

/-- Joins the matches so far with those of one more element. -/
def narrow (matched : Option UriSet) (found : UriSet) : UriSet :=
  match matched with
  | none => found
  | some matched => UriSet.inter matched found

end SegmentScope

mutual

/-- The objects that match one element, and whether the fold was asked along with it. -/
def Element.search (scope : SegmentScope) (fold : Option Fold) :
    Element → Dialogue (UriSet × Bool)
  | .leaf criterion => do return (← scope.leaf fold criterion, fold.isSome)
  | .nested connective elements =>
    match Fold.typesWanted scope.folding ⟨connective, elements⟩ with
    | some criterion => do return (← scope.leaf fold (.type criterion), fold.isSome)
    | none => do
      let found ←
        match connective, elements with
        | .and, [] => scope.every
        | .or, [] => pure []
        | .and, elements => scope.conjunction elements fun fold =>
            Element.searchAnd scope fold 0 none [] false elements
        | .or, elements => Element.searchOr scope [] elements
      return (found, false)

/-- Searches the elements of an AND container that the fold does not cover. -/
def Element.searchAnd (scope : SegmentScope) (fold : Option Fold) (place : Nat)
    (matched : Option UriSet) (excluding : List Criterion) (applied : Bool) :
    List Element → Dialogue SegmentScope.Progress
  | [] => .done (.open matched excluding applied)
  | element :: rest => do
    if fold.any (·.covers place) then
      Element.searchAnd scope fold (place + 1) matched excluding applied rest
    else
      match element with
      | .leaf criterion =>
        if criterion.isSetNegation then
          Element.searchAnd scope fold (place + 1) matched (excluding ++ [criterion]) applied rest
        else
          let found ← scope.leaf fold criterion
          let next := SegmentScope.narrow matched found
          if next.isEmpty then return .exhausted
          else
            Element.searchAnd scope fold (place + 1) (some next) excluding
              (applied || fold.isSome) rest
      | element =>
        let (found, asked) ← element.search scope fold
        let next := SegmentScope.narrow matched found
        if next.isEmpty then return .exhausted
        else
          Element.searchAnd scope fold (place + 1) (some next) excluding (applied || asked) rest

/-- Collects the matches of the elements of an OR container. -/
def Element.searchOr (scope : SegmentScope) (matched : UriSet) :
    List Element → Dialogue UriSet
  | [] => .done matched
  | element :: rest => do
    let (found, _) ← element.search scope none
    match element with
    | .leaf criterion =>
      if criterion.isSetNegation then
        let all ← scope.every
        Element.searchOr scope (UriSet.union matched (UriSet.diff all found)) rest
      else Element.searchOr scope (UriSet.union matched found) rest
    | _ => Element.searchOr scope (UriSet.union matched found) rest

end

namespace SegmentScope

/-- Searches a container by set algebra. -/
def searchSets (scope : SegmentScope) (container : Container) : Dialogue UriSet :=
  match container.connective, container.elements with
  | .and, [] => scope.every
  | .or, [] => .done []
  | .and, elements => scope.conjunction elements fun fold =>
      Element.searchAnd scope fold 0 none [] false elements
  | .or, elements => Element.searchOr scope [] elements

end SegmentScope

mutual

/-- Probes an AND container and the AND containers in it. -/
def Element.probeNested (scope : SegmentScope) : Element → Dialogue Bool
  | .leaf _ => .done true
  | .nested connective elements =>
    match connective with
    | .or => .done true
    | .and => do
      if ← scope.probe ⟨.and, elements⟩ then Element.probeNestedAll scope elements
      else return false

def Element.probeNestedAll (scope : SegmentScope) : List Element → Dialogue Bool
  | [] => .done true
  | element :: rest => do
    if ← element.probeNested scope then Element.probeNestedAll scope rest else return false

end

namespace SegmentScope

/-- Searches a container by a single statement. -/
def searchComposed (scope : SegmentScope) (container : Container) : Dialogue UriSet := do
  if ← container.asElement.probeNested scope then
    let condition ← Dialogue.ofExcept (container.condition scope.toLeafScope scope.folding)
    Dialogue.reach condition.depth
    let found ← ask "SELECT" (.objects scope.table condition)
    return UriSet.ofList found
  else return []

/-- The objects of a segment that match, in ascending order. -/
def search (scope : SegmentScope) (mode : ExecutionMode) (container : Container) :
    Dialogue UriSet :=
  match mode with
  | .setAlgebra => scope.searchSets container
  | .singleStatement => scope.searchComposed container

end SegmentScope

end GraphSegments
