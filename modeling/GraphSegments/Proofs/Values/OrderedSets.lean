import GraphSegments.Proofs.Sorting
import GraphSegments.Proofs.Values.Order
import Mathlib.Data.List.Forall2
import Mathlib.Data.List.Induction
import Mathlib.Data.List.Pairwise

/-!
Values sorted by their order, and sets of them. The order does not tell all values apart: what it
determines of a sorted list and of a set is, at each place, all but which one of equal values
stands there.
-/

namespace GraphSegments.Value
open Std

/-- How many values of a list are equal to a value. -/
def multiplicity (value : Value) (values : List Value) : Nat :=
  values.countP fun other => value.order other == .eq

theorem multiplicity_cons (value first : Value) (rest : List Value) :
    value.multiplicity (first :: rest) =
      value.multiplicity rest + if value.order first == .eq then 1 else 0 :=
  List.countP_cons ..

theorem multiplicity_pos {value : Value} {values : List Value} :
    0 < value.multiplicity values ↔ ∃ other ∈ values, value.order other = .eq := by
  simp [multiplicity, List.countP_pos_iff]

theorem multiplicity_self_pos (first : Value) (rest : List Value) :
    0 < first.multiplicity (first :: rest) :=
  multiplicity_pos.2 ⟨first, List.mem_cons_self, ReflCmp.compare_self⟩

/-- The first value in ascending order is the least. -/
theorem isLE_of_multiplicity_pos {value first : Value} {rest : List Value}
    (ascending : (first :: rest).Pairwise fun a b => (a.order b).isLE)
    (present : 0 < value.multiplicity (first :: rest)) : (first.order value).isLE := by
  obtain ⟨other, member, same⟩ := multiplicity_pos.1 present
  have least : (first.order other).isLE := by
    rcases List.mem_cons.1 member with rfl | later
    · exact ReflCmp.isLE_rfl
    · exact List.rel_of_pairwise_cons ascending later
  exact TransCmp.isLE_trans least (Ordering.isLE_of_eq_eq (OrientedCmp.eq_symm same))

/-- Lists in ascending order that have as many of each value agree place by place. -/
theorem forall₂_of_multiplicity {first second : List Value}
    (ascending : first.Pairwise fun a b => (a.order b).isLE)
    (others : second.Pairwise fun a b => (a.order b).isLE)
    (alike : ∀ value, multiplicity value first = multiplicity value second) :
    List.Forall₂ (fun a b => a.order b = .eq) first second := by
  induction first generalizing second with
  | nil =>
    match second with
    | [] => exact .nil
    | b :: more =>
      have present := multiplicity_self_pos b more
      rw [← alike] at present
      exact absurd present (Nat.lt_irrefl 0)
  | cons a rest ih =>
    have present := multiplicity_self_pos a rest
    rw [alike] at present
    match second with
    | [] => exact absurd present (Nat.lt_irrefl 0)
    | b :: more =>
      have found := multiplicity_self_pos b more
      rw [← alike] at found
      have same : a.order b = .eq := OrientedCmp.isLE_antisymm
        (isLE_of_multiplicity_pos ascending found) (isLE_of_multiplicity_pos others present)
      refine .cons same (ih ascending.of_cons others.of_cons fun value => ?_)
      have whole := alike value
      rw [multiplicity_cons, multiplicity_cons, TransCmp.congr_right same] at whole
      exact Nat.add_right_cancel whole

/-- A list in ascending order of which another is a permutation. -/
structure Sorts (sorted values : List Value) : Prop where
  perm : sorted.Perm values
  ascending : sorted.Pairwise fun a b => (a.order b).isLE

theorem sorts_mergeSort (values : List Value) :
    Sorts (values.mergeSort fun a b => (a.order b).isLE) values where
  perm := List.mergeSort_perm ..
  ascending := Lists.pairwise_mergeSort_order Value.order values

/-- A list in strictly ascending order that holds each value of another once, as one of the values
that are equal to it. -/
structure IsSetOf (set values : List Value) : Prop where
  ascending : set.Pairwise fun a b => a.order b = .lt
  sound : ∀ value ∈ set, value ∈ values
  complete : ∀ value ∈ values, ∃ member ∈ set, value.order member = .eq

/-- Whatever is not told apart from a value is at most once in strictly ascending order. -/
theorem multiplicity_of_ascending {set : List Value}
    (ascending : set.Pairwise fun a b => a.order b = .lt) (value : Value) :
    value.multiplicity set = if set.any fun member => value.order member == .eq then 1 else 0 := by
  induction set with
  | nil => rfl
  | cons first rest ih =>
    obtain ⟨below, ascending⟩ := List.pairwise_cons.1 ascending
    rw [multiplicity_cons, ih ascending, List.any_cons]
    by_cases same : value.order first = .eq
    · have none : (rest.any fun member => value.order member == .eq) = false := by
        simp only [List.any_eq_false, beq_iff_eq]
        intro member listed also
        rw [TransCmp.congr_left same, below member listed] at also
        exact absurd also (by simp)
      simp [same, none]
    · simp [same]

theorem IsSetOf.multiplicity {set values : List Value} (isSet : IsSetOf set values)
    (value : Value) :
    value.multiplicity set =
      if values.any fun member => value.order member == .eq then 1 else 0 := by
  rw [multiplicity_of_ascending isSet.ascending]
  congr 1
  simp only [List.any_eq_true, beq_iff_eq, eq_iff_iff]
  constructor
  · rintro ⟨member, listed, same⟩
    exact ⟨member, isSet.sound member listed, same⟩
  · rintro ⟨other, listed, same⟩
    obtain ⟨member, kept, alike⟩ := isSet.complete other listed
    exact ⟨member, kept, TransCmp.eq_trans same alike⟩

/-- A set tells its members apart. -/
theorem IsSetOf.eq_of_order {set values : List Value} (isSet : IsSetOf set values) {a b : Value}
    (first : a ∈ set) (second : b ∈ set) (alike : a.order b = .eq) : a = b := by
  have apart : set.Pairwise fun a b => a.order b ≠ .eq :=
    isSet.ascending.imp fun below => by rw [below]; simp
  have symmetric : Symm fun a b : Value => a.order b ≠ .eq :=
    ⟨fun _ _ differ same => differ (OrientedCmp.eq_symm same)⟩
  by_contra different
  exact apart.forall first second different alike

/-! Sets by insertion, one value after the other. -/

section Insertion

variable {value : Value} {set : List Value}

theorem mem_insertOrdered {member : Value} (listed : member ∈ value.insertOrdered set) :
    member = value ∨ member ∈ set := by
  fun_induction insertOrdered value set with
  | case1 => exact .inl (List.mem_singleton.1 listed)
  | case2 first rest below => exact List.mem_cons.1 listed
  | case3 first rest same => exact .inr listed
  | case4 first rest above ih =>
    rcases List.mem_cons.1 listed with rfl | later
    · exact .inr List.mem_cons_self
    · exact (ih later).imp_right (List.mem_cons_of_mem _)

theorem subset_insertOrdered (value : Value) (set : List Value) : set ⊆ value.insertOrdered set := by
  fun_induction insertOrdered value set with
  | case1 => exact List.nil_subset _
  | case2 first rest below => exact List.subset_cons_self _ _
  | case3 first rest same => exact List.Subset.refl _
  | case4 first rest above ih => exact List.cons_subset_cons first ih

theorem exists_mem_insertOrdered (value : Value) (set : List Value) :
    ∃ member ∈ value.insertOrdered set, value.order member = .eq := by
  fun_induction insertOrdered value set with
  | case1 => exact ⟨value, List.mem_singleton_self _, ReflCmp.compare_self⟩
  | case2 first rest below => exact ⟨value, List.mem_cons_self, ReflCmp.compare_self⟩
  | case3 first rest same => exact ⟨first, List.mem_cons_self, same⟩
  | case4 first rest above ih =>
    obtain ⟨member, listed, same⟩ := ih
    exact ⟨member, List.mem_cons_of_mem _ listed, same⟩

theorem ascending_insertOrdered (ascending : set.Pairwise fun a b => a.order b = .lt) :
    (value.insertOrdered set).Pairwise fun a b => a.order b = .lt := by
  fun_induction insertOrdered value set with
  | case1 => exact List.pairwise_singleton _ _
  | case2 first rest below =>
    refine List.pairwise_cons.2 ⟨fun other listed => ?_, ascending⟩
    rcases List.mem_cons.1 listed with rfl | later
    · exact below
    · exact TransCmp.lt_trans below (List.rel_of_pairwise_cons ascending later)
  | case3 first rest same => exact ascending
  | case4 first rest above ih =>
    refine List.pairwise_cons.2 ⟨fun other listed => ?_, ih ascending.of_cons⟩
    rcases mem_insertOrdered listed with rfl | later
    · exact OrientedCmp.lt_of_gt above
    · exact List.rel_of_pairwise_cons ascending later

theorem IsSetOf.insertOrdered {values others : List Value} (isSet : IsSetOf set values)
    (adds : ∀ other, other ∈ others ↔ other = value ∨ other ∈ values) :
    IsSetOf (value.insertOrdered set) others where
  ascending := ascending_insertOrdered isSet.ascending
  sound member listed := (adds member).2 ((mem_insertOrdered listed).imp_right (isSet.sound member))
  complete other listed := by
    rcases (adds other).1 listed with rfl | held
    · exact exists_mem_insertOrdered other set
    · obtain ⟨member, kept, same⟩ := isSet.complete other held
      exact ⟨member, subset_insertOrdered value set kept, same⟩

theorem isSetOf_nil : IsSetOf [] [] :=
  ⟨.nil, fun _ listed => listed, fun _ listed => absurd listed List.not_mem_nil⟩

theorem isSetOf_distinct (values : List Value) : IsSetOf (distinct values) values := by
  induction values with
  | nil => exact isSetOf_nil
  | cons value rest ih => exact ih.insertOrdered fun other => List.mem_cons

end Insertion

/-- The set of some values, inserted one after the other; of equal ones the first stays. -/
def collected (values : List Value) : List Value :=
  values.foldl (fun set value => value.insertOrdered set) []

theorem isSetOf_collected (values : List Value) : IsSetOf (collected values) values := by
  induction values using List.reverseRecOn with
  | nil => exact isSetOf_nil
  | append_singleton values value ih =>
    rw [collected, List.foldl_append]
    refine ih.insertOrdered fun other => ?_
    rw [List.mem_append, List.mem_singleton, or_comm]

/-- The order of values is a total preorder, of values of whatever kinds. What it leaves open when
values are sorted is only which one of equal values comes first, and what it leaves open of a set is
only which one of equal values is in it. -/
theorem order_isTotalPreorder :
    (∀ a b : Value, b.order a = (a.order b).swap) ∧
      (∀ a b c : Value, (a.order b).isLE → (b.order c).isLE → (a.order c).isLE) ∧
      (∀ a b c : Value, a.order b = .eq → b.order c = .eq → a.order c = .eq) ∧
      (∀ values, Sorts (values.mergeSort fun a b => (a.order b).isLE) values) ∧
      (∀ values sorted resorted, Sorts sorted values → Sorts resorted values →
        List.Forall₂ (fun a b => a.order b = .eq) sorted resorted) ∧
      (∀ values, IsSetOf (collected values) values ∧ IsSetOf (distinct values) values) ∧
      ∀ values others set other, (∀ value, value ∈ values ↔ value ∈ others) →
        IsSetOf set values → IsSetOf other others →
        List.Forall₂ (fun a b => a.order b = .eq) set other := by
  refine ⟨fun _ _ => OrientedCmp.eq_swap, fun _ _ _ => TransCmp.isLE_trans,
    fun _ _ _ => TransCmp.eq_trans, sorts_mergeSort, ?_,
    fun values => ⟨isSetOf_collected values, isSetOf_distinct values⟩, ?_⟩
  · intro values sorted resorted sorts resorts
    apply forall₂_of_multiplicity sorts.ascending resorts.ascending
    intro value
    exact (sorts.perm.trans resorts.perm.symm).countP_eq _
  · intro values others set other same isSet isOther
    apply forall₂_of_multiplicity (isSet.ascending.imp Ordering.isLE_of_eq_lt)
      (isOther.ascending.imp Ordering.isLE_of_eq_lt)
    intro value
    have any (p : Value → Bool) : values.any p = others.any p :=
      Bool.eq_iff_iff.2 (by simp only [List.any_eq_true, same])
    rw [isSet.multiplicity, isOther.multiplicity, any]

end GraphSegments.Value
