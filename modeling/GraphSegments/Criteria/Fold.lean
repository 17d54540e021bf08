import GraphSegments.Criteria
import GraphSegments.Error
import GraphSegments.Vocabulary

/-!
Folding: the criteria of a container that every row of an object can answer by itself, because
its class, timestamp and channel stand in each row, are merged into one predicate.
-/

namespace GraphSegments

/-- One end of a range of timestamps. -/
structure TimestampBound where
  value : Int64
  inclusive : Bool
  deriving DecidableEq, Repr

/-- A comparison of the channel. -/
structure ChannelFilter where
  comparator : Comparator
  uris : List String
  deriving DecidableEq, Repr

/-- Why a criterion on a folded column stays outside the fold. -/
inductive FoldWarning where
  | secondChannel
  | channelComparator (comparator : Comparator)
  | timestampOperand
  | timestampComparator (comparator : Comparator)
  | secondBound
  deriving DecidableEq, Repr

def FoldWarning.text : FoldWarning → String
  | secondChannel => "more than one channel uri criterion"
  | channelComparator comparator => "channel uri comparator unsupported: " ++ comparator.name
  | timestampOperand => "timestamp criterion without numeric value"
  | timestampComparator comparator =>
    "only range timestamp criteria are folded: " ++ comparator.name
  | secondBound => "more than one timestamp bound in the same direction"

/-- The merged criteria of an AND container. -/
structure Fold where
  /-- The types admitted or excluded, in ascending order. -/
  types : List String
  /-- Whether the types are admitted rather than excluded. -/
  admits : Bool
  /-- No type is admitted, so nothing can match. -/
  unsatisfiable : Bool
  min : Option TimestampBound
  max : Option TimestampBound
  channel : Option ChannelFilter
  /-- The places of the merged criteria in the container. -/
  covered : List Nat
  warnings : List FoldWarning
  deriving DecidableEq, Repr

namespace Fold

/-- The different texts of a list in ascending order. -/
def ascending (texts : List String) : List String := texts.eraseDups.mergeSort

/-- What has been merged so far. -/
structure Progress where
  /-- Whether type criteria admit or exclude, once there is one. -/
  inclusive : Option Bool
  admitted : Option (List String)
  excluded : List String
  min : Option TimestampBound
  max : Option TimestampBound
  channel : Option ChannelFilter
  covered : List Nat
  warnings : List FoldWarning

namespace Progress

def start : Progress := ⟨none, none, [], none, none, none, [], []⟩

/-- Leaves a criterion outside the fold. -/
def warn (progress : Progress) (warning : FoldWarning) : Progress :=
  { progress with warnings := progress.warnings ++ [warning] }

/-- Admitted types are intersected and excluded ones are collected; the two do not mix. -/
def mergeType (progress : Progress) (place : Nat) (criterion : TypeCriterion) :
    Except Error Progress :=
  let inclusive := criterion.isInclusive
  if progress.inclusive.any (· != inclusive) then .error (.query .mixedTypeComparators)
  else
    let admitted :=
      match progress.admitted with
      | none => criterion.types
      | some types => types.filter criterion.types.contains
    .ok <|
      if inclusive then
        { progress with
          inclusive := some true
          admitted := some admitted
          covered := progress.covered ++ [place] }
      else
        { progress with
          inclusive := some false
          excluded := progress.excluded ++ criterion.types
          covered := progress.covered ++ [place] }

/-- The first comparison of the channel is merged. -/
def mergeChannel (progress : Progress) (place : Nat) (criterion : PropertyCriterion) :
    Progress :=
  if progress.channel.isSome then progress.warn .secondChannel
  else if !criterion.comparator.isMembership then
    progress.warn (.channelComparator criterion.comparator)
  else
    { progress with
      channel := some ⟨criterion.comparator, criterion.values.filterMap (·.text?)⟩
      covered := progress.covered ++ [place] }

/-- An operand that is a whole number of milliseconds. -/
def instant? : Value → Option Int64
  | .long n | .date n => some n
  | .integer n => some n.toInt64
  | _ => none

/-- The first bound of each direction is merged. -/
def mergeTimestamp (progress : Progress) (place : Nat) (criterion : PropertyCriterion) :
    Progress :=
  match criterion.values.head?.bind instant? with
  | none => progress.warn .timestampOperand
  | some value =>
    let covered := progress.covered ++ [place]
    match criterion.comparator with
    | .ge | .gt =>
      if progress.min.isSome then progress.warn .secondBound
      else
        { progress with min := some ⟨value, criterion.comparator == .ge⟩, covered := covered }
    | .le | .lt =>
      if progress.max.isSome then progress.warn .secondBound
      else
        { progress with max := some ⟨value, criterion.comparator == .le⟩, covered := covered }
    | comparator => progress.warn (.timestampComparator comparator)

/-- Merges one criterion if it is about the class, the channel or the timestamp. -/
def merge (progress : Progress) (place : Nat) : Criterion → Except Error Progress
  | .type criterion => progress.mergeType place criterion
  | .property criterion =>
    .ok <|
      if criterion.property = Vocabulary.hasChannel then progress.mergeChannel place criterion
      else if criterion.property = Vocabulary.hasTimestamp then
        progress.mergeTimestamp place criterion
      else progress

/-- Merges the elements from left to right. A container among them stops the fold, an error
before it wins. -/
def mergeAll (progress : Progress) (place : Nat) : List Element → Except Error (Option Progress)
  | [] => .ok (some progress)
  | .nested .. :: _ => .ok none
  | .leaf criterion :: rest => do
    let progress ← progress.merge place criterion
    progress.mergeAll (place + 1) rest

/-- The fold, unless nothing was merged. -/
def finish? (progress : Progress) : Option Fold :=
  if progress.covered.isEmpty then none
  else
    let included := progress.inclusive.getD false
    let types := ascending
      (if included then progress.admitted.getD [] else progress.excluded)
    some
      { types := types
        admits := included
        unsatisfiable := included && types.isEmpty
        min := progress.min
        max := progress.max
        channel := progress.channel
        covered := progress.covered
        warnings := progress.warnings }

end Progress

def covers (fold : Fold) (place : Nat) : Bool := fold.covered.contains place

/-- The fold of an AND container of criteria alone. -/
def ofAnd (container : Container) : Except Error (Option Fold) :=
  match container.connective with
  | .or => .ok none
  | .and => do
    let progress ← Progress.start.mergeAll 0 container.elements
    return progress.bind (·.finish?)

/-- The types of criteria that all satisfy a test; nothing else may be among the elements. -/
def collectTypes (accepts : TypeCriterion → Bool) : List Element → Option (List String)
  | [] => some []
  | .leaf (.type criterion) :: rest =>
    if accepts criterion then (collectTypes accepts rest).map (criterion.types ++ ·) else none
  | _ => none

/-- An OR container of type equalities that name two types at least, as one criterion. -/
def ofTypeOr (container : Container) : Option TypeCriterion :=
  match container.connective with
  | .and => none
  | .or =>
    match collectTypes (fun criterion => criterion.comparator == .eq && !criterion.negated)
        container.elements with
    | some (first :: second :: rest) => some (.oneOf (first :: second :: rest))
    | _ => none

/-- An AND container of nothing but type inequalities, as one criterion. -/
def ofTypeNeAnd (container : Container) : Option TypeCriterion :=
  match container.connective with
  | .or => none
  | .and =>
    match collectTypes (fun criterion =>
          (criterion.comparator == .ne && !criterion.negated) ||
            (criterion.comparator == .eq && criterion.negated))
        container.elements with
    | some (first :: rest) => some (.noneOf (first :: rest))
    | _ => none

/-- A container as one type criterion, where it is nothing more. -/
def ofTypes (container : Container) : Option TypeCriterion :=
  (ofTypeOr container).or (ofTypeNeAnd container)

end Fold

namespace Container

/-- The criteria that can be probed one by one; of the criteria on one property the first. -/
def positiveCriteria : List String → List Criterion → List Criterion
  | _, [] => []
  | seen, criterion :: rest =>
    if criterion.isNegated then positiveCriteria seen rest
    else
      match criterion with
      | .type _ => criterion :: positiveCriteria seen rest
      | .property inner =>
        if inner.comparator.isExclusive || seen.contains inner.property then
          positiveCriteria seen rest
        else criterion :: positiveCriteria (inner.property :: seen) rest

/-- The criteria of an AND container worth a probe: there is no point in probing a single one. -/
def probes (container : Container) : List Criterion :=
  match container.connective with
  | .or => []
  | .and =>
    match positiveCriteria [] container.criteria with
    | first :: second :: rest => first :: second :: rest
    | _ => []

end Container

end GraphSegments
