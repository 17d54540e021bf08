import GraphSegments.Proofs.Objects.Comparisons
import GraphSegments.Proofs.Values.OrderedSets
import GraphSegments.Proofs.Values.WholeNumbers
import Mathlib.Data.List.Dedup
import Mathlib.Data.List.Perm.Subperm

/-!
Kinds of values whose contents have an order of their own. The order of values is this one, but for
long numbers: they compare as doubles, and where two of them are rounded to one double they count as
one value.
-/

namespace GraphSegments
open Std

namespace Value

/-- The order of the contents of values of one exact kind. -/
def natural : Value → Value → Ordering
  | boolean x, boolean y => compare x.toNat y.toNat
  | date x, date y | long x, long y => compare x.toInt y.toInt
  | integer x, integer y => compare x.toInt y.toInt
  | truth x, truth y => compare x.code y.code
  | other x, other y | string x, string y | uri x, uri y => compare x y
  | _, _ => .eq

/-- Different long numbers that are rounded to one double. -/
def Conflates : Value → Value → Prop
  | long x, long y => x ≠ y ∧ Double.ofInt x.toInt = Double.ofInt y.toInt
  | _, _ => False

instance : DecidableRel Conflates := fun a b => by
  unfold Conflates
  split <;> infer_instance

/-- Only long numbers are conflated, and only where one of them is beyond 2 ^ 53. -/
theorem Conflates.exists_large {a b : Value} (conflates : a.Conflates b) :
    ∃ m n : Int64, a = long m ∧ b = long n ∧ 2 ^ 53 < max m.toInt.natAbs n.toInt.natAbs := by
  match a, b with
  | long m, long n =>
    refine ⟨m, n, rfl, rfl, ?_⟩
    by_contra small
    obtain ⟨first, second⟩ := Nat.max_le.1 (Nat.not_lt.1 small)
    have different : m.toInt ≠ n.toInt := fun same => conflates.1 (Int64.toInt_inj.1 same)
    exact Double.ofInt_ne different first second conflates.2

theorem order_long (x y : Int64) :
    (long x).order (long y) = (Double.ofInt x.toInt).totalCompare (Double.ofInt y.toInt) := rfl

theorem order_integer (x y : Int32) :
    (integer x).order (integer y) = compare x.toInt y.toInt := by
  have small (z : Int32) : z.toInt.natAbs ≤ 2 ^ 53 := by
    have least := z.le_toInt
    have most := z.toInt_lt
    omega
  exact Double.totalCompare_ofInt fun different => Double.ofInt_ne different (small x) (small y)

theorem order_long_eq_iff (x y : Int64) :
    (long x).order (long y) = compare x.toInt y.toInt ↔ ¬ (long x).Conflates (long y) := by
  rw [order_long]
  constructor
  · intro same conflates
    obtain ⟨different, rounded⟩ := conflates
    have alike : (Double.ofInt x.toInt).totalCompare (Double.ofInt y.toInt) = .eq := by
      rw [rounded]
      exact ReflOrd.compare_self
    rw [same] at alike
    exact different (Int64.toInt_inj.1 (LawfulEqOrd.eq_of_compare alike))
  · intro apart
    exact Double.totalCompare_ofInt fun different rounded =>
      apart ⟨fun same => different (congrArg Int64.toInt same), rounded⟩

section Kind

variable {a b : Value} (exact : a.kind.isExact = true) (same : a.kind = b.kind)
include exact same

/-- Values of one exact kind have the same contents only if they are identical. -/
theorem natural_eq_iff : a.natural b = .eq ↔ a = b := by
  cases a <;> cases b <;> first
    | cases same; done
    | cases exact; done
    | skip
  case boolean x y => cases x <;> cases y <;> decide
  case truth x y => cases x <;> cases y <;> decide
  all_goals simp [natural, Int32.toInt_inj, Int64.toInt_inj]

/-- The order of values of one exact kind is that of their contents unless they are conflated. -/
theorem order_eq_natural_iff : a.order b = a.natural b ↔ ¬ a.Conflates b := by
  cases a <;> cases b <;> first
    | cases same; done
    | cases exact; done
    | skip
  case integer x y => exact iff_of_true (order_integer x y) id
  case long x y => exact order_long_eq_iff x y
  all_goals exact iff_of_true rfl id

/-- Values of one exact kind that are not conflated are told apart unless they are identical. -/
theorem order_eq_iff (apart : ¬ a.Conflates b) : a.order b = .eq ↔ a = b := by
  rw [(order_eq_natural_iff exact same).2 apart, natural_eq_iff exact same]

end Kind

theorem Conflates.order_eq {a b : Value} (conflates : a.Conflates b) : a.order b = .eq := by
  match a, b with
  | long x, long y =>
    rw [order_long, conflates.2]
    exact ReflOrd.compare_self

theorem Conflates.ne {a b : Value} (conflates : a.Conflates b) : a ≠ b := by
  match a, b with
  | long x, long y => exact fun same => conflates.1 (long.inj same)

/-! Sets of values of one exact kind. -/

/-- No two values are conflated. -/
def Distinct (values : List Value) : Prop := ∀ a ∈ values, ∀ b ∈ values, ¬ a.Conflates b

instance (values : List Value) : Decidable (Distinct values) :=
  inferInstanceAs (Decidable (∀ a ∈ values, ∀ b ∈ values, ¬ a.Conflates b))

section Sets

variable {set values : List Value} (isSet : IsSetOf set values)
include isSet

theorem IsSetOf.nodup : set.Nodup :=
  isSet.ascending.imp fun {a b} below same => by
    have self : a.order a = .eq := ReflCmp.compare_self
    rw [← same, self] at below
    cases below

/-- A set has all different values if and only if no two of them are conflated. -/
theorem IsSetOf.subset_iff {kind : ValueKind} (exact : kind.isExact = true)
    (kinds : ∀ value ∈ values, value.kind = kind) : values ⊆ set ↔ Distinct values := by
  constructor
  · intro all a first b second conflates
    exact conflates.ne (isSet.eq_of_order (all first) (all second) conflates.order_eq)
  · intro distinct value listed
    obtain ⟨member, kept, alike⟩ := isSet.complete value listed
    have own := isSet.sound member kept
    have same := (order_eq_iff (by rwa [kinds value listed])
      ((kinds value listed).trans (kinds member own).symm)
      (distinct value listed member own)).1 alike
    exact same ▸ kept

/-- A set is as large as there are different values if and only if no two of them are conflated. -/
theorem IsSetOf.length_eq_iff {kind : ValueKind} (exact : kind.isExact = true)
    (kinds : ∀ value ∈ values, value.kind = kind) :
    set.length = values.dedup.length ↔ Distinct values := by
  rw [← isSet.subset_iff exact kinds]
  constructor
  · intro long value listed
    have within : set.Subperm values.dedup := List.subperm_of_subset isSet.nodup
      fun member kept => List.mem_dedup.2 (isSet.sound member kept)
    exact (within.perm_of_length_le long.ge).mem_iff.2 (List.mem_dedup.2 listed)
  · intro all
    refine ((List.perm_ext_iff_of_nodup isSet.nodup (List.nodup_dedup values)).2 ?_).length_eq
    exact fun value => ⟨fun kept => List.mem_dedup.2 (isSet.sound value kept),
      fun listed => all (List.mem_dedup.1 listed)⟩

end Sets

end Value

end GraphSegments
