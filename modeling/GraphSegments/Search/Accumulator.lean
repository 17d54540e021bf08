import GraphSegments.Query

/-!
Aggregation: one number out of the values of a property. Only numbers count for the sum, the
average and the extremes.
-/

namespace GraphSegments

/-- What is known of the values seen so far. -/
structure Accumulator where
  count : Nat
  /-- How many of the values were numbers. -/
  numeric : Nat
  sum : Double
  min : Option Double
  max : Option Double
  /-- The different values, where only those count. -/
  distinct : List Value
  deriving DecidableEq, Repr

namespace Accumulator

def empty : Accumulator := ⟨0, 0, .zero, none, none, []⟩

/-- Counts a value. -/
def add (accumulator : Accumulator) (value : Value) : Accumulator :=
  let counted := { accumulator with count := accumulator.count + 1 }
  match value.number? with
  | none => counted
  | some number =>
    { counted with
      numeric := accumulator.numeric + 1
      sum := accumulator.sum.add number
      min := some ((accumulator.min.map (·.minimum number)).getD number)
      max := some ((accumulator.max.map (·.maximum number)).getD number) }

/-- Takes a value, or keeps it until all are known where only different values count. -/
def take (aggregation : Aggregation) (accumulator : Accumulator) (value : Value) : Accumulator :=
  if aggregation.distinct then
    { accumulator with distinct := value.insertOrdered accumulator.distinct }
  else accumulator.add value

/-- The number asked for. Without numbers there is neither an average nor an extreme. -/
def finish (aggregation : Aggregation) (accumulator : Accumulator) : AggregationResult :=
  let counted :=
    if aggregation.distinct then accumulator.distinct.foldl add accumulator else accumulator
  ⟨aggregation.kind,
    match aggregation.kind with
    | .count => Double.ofInt counted.count
    | .sum => counted.sum
    | .average =>
      if counted.numeric = 0 then .nan else counted.sum.divCount counted.numeric
    | .min => counted.min.getD .nan
    | .max => counted.max.getD .nan⟩

end Accumulator

end GraphSegments
