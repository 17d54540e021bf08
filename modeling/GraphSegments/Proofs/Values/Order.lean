import GraphSegments.Value

/-!
The order of values is a total preorder: values are compared by the rank of their kind, then as
lists of numbers, then as texts.
-/

namespace GraphSegments

namespace Value

/-- The numbers that decide between values of one rank. -/
def orderNumbers : Value → List Int
  | boolean holds => [holds.toNat]
  | date millis => [millis.toInt]
  | geolocation point =>
    [BinaryFormat.double.orderKey point.latitude.pattern,
      BinaryFormat.double.orderKey point.longitude.pattern]
  | .truth held => [held.code]
  | value => (value.number?.map fun number => BinaryFormat.double.orderKey number.pattern).toList

/-- The text that decides between values of one rank. -/
def orderText (value : Value) : String := value.text?.getD ""

theorem compare_natCast (m n : Nat) : compare (m : Int) (n : Int) = compare m n := by
  rcases Nat.lt_trichotomy m n with below | rfl | above
  · rw [Nat.compare_eq_lt.2 below, Int.compare_eq_lt.2 (Int.ofNat_lt.2 below)]
  · rw [Nat.compare_eq_eq.2 rfl, Int.compare_eq_eq.2 rfl]
  · rw [Nat.compare_eq_gt.2 above, Int.compare_eq_gt.2 (Int.ofNat_lt.2 above)]

/-- Values are compared by rank, numbers and text, in this order. -/
theorem order_eq (a b : Value) :
    a.order b = compareLex (compareOn fun value : Value => value.kind.rank)
      (compareLex (compareOn orderNumbers) (compareOn orderText)) a b := by
  unfold order compareLex compareOn
  cases ranks : compare a.kind.rank b.kind.rank with
  | lt => rfl
  | gt => rfl
  | eq =>
    cases a <;> cases b <;>
      first
      | cases ranks; done
      | simp [orderNumbers, orderText, text?, number?, compare_natCast, Double.totalCompare]

instance : Std.TransCmp order := by
  have same : order = compareLex (compareOn fun value : Value => value.kind.rank)
      (compareLex (compareOn orderNumbers) (compareOn orderText)) := by
    funext a b
    exact order_eq a b
  rw [same]
  infer_instance

end Value

end GraphSegments
