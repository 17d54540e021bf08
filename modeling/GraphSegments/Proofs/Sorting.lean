import GraphSegments.Proofs.Lists
import Mathlib.Data.List.Basic
import Mathlib.Data.String.Basic

/-!
Sorted lists. Sorting leaves items that are not told apart in their order, so that a sorted list is
known by the items of each kind; one more item goes behind those that are not greater. Then lists
sorted by a key, which are known by the items of each key.
-/

namespace GraphSegments.Lists

variable {α : Type}

/-- Sorting leaves items that are not told apart in their order. -/
theorem filter_mergeSort_of_alike {le : α → α → Bool}
    (transitive : ∀ a b c, le a b = true → le b c = true → le a c = true)
    (total : ∀ a b, (le a b || le b a) = true) {own : α → Bool}
    (alike : ∀ a b, own a = true → own b = true → le a b = true) (items : List α) :
    (items.mergeSort le).filter own = items.filter own := by
  have inOrder : (items.filter own).Pairwise fun a b => le a b = true := by
    refine List.Pairwise.imp_of_mem (fun {a b} first second _ => ?_)
      (List.pairwise_of_forall fun _ _ => trivial)
    exact alike a b (List.mem_filter.1 first).2 (List.mem_filter.1 second).2
  have kept := (List.sublist_mergeSort transitive total inOrder List.filter_sublist).filter own
  rw [List.filter_filter] at kept
  simp only [Bool.and_self] at kept
  exact (kept.eq_of_length ((List.mergeSort_perm items _).filter _).length_eq.symm).symm

section Stable

variable {order : α → α → Ordering}

/-- Whether an order does not tell two items apart. -/
def isAlike (order : α → α → Ordering) (item other : α) : Bool := order item other == .eq

variable [Std.TransCmp order]

theorem isAlike_self (item : α) : isAlike order item item = true :=
  beq_iff_eq.2 Std.ReflCmp.compare_self

/-- Two items that are like a third one are like each other. -/
theorem order_eq_of_isAlike {item a b : α} (first : isAlike order item a = true)
    (second : isAlike order item b = true) : order a b = .eq :=
  Std.TransCmp.eq_trans (Std.OrientedCmp.eq_symm (beq_iff_eq.1 first)) (beq_iff_eq.1 second)

theorem isLE_or_isLE (a b : α) : ((order a b).isLE || (order b a).isLE) = true := by
  have swapped : order b a = (order a b).swap := Std.OrientedCmp.eq_swap
  rw [swapped]
  cases order a b <;> rfl

variable (order) in
theorem pairwise_mergeSort_order (items : List α) :
    (items.mergeSort fun a b => (order a b).isLE).Pairwise fun a b => (order a b).isLE :=
  List.pairwise_mergeSort (fun _ _ _ => Std.TransCmp.isLE_trans) isLE_or_isLE items

theorem filter_mergeSort_isAlike (items : List α) (own : α) :
    (items.mergeSort fun a b => (order a b).isLE).filter (isAlike order own) =
      items.filter (isAlike order own) := by
  refine filter_mergeSort_of_alike (fun _ _ _ => Std.TransCmp.isLE_trans) isLE_or_isLE ?_ items
  intro a b first second
  exact Ordering.isLE_of_eq_eq (order_eq_of_isAlike first second)

/-- The first item in order is the least. -/
theorem isLE_of_mem_cons {first item : α} {rest : List α}
    (inOrder : (first :: rest).Pairwise fun a b => (order a b).isLE)
    (listed : item ∈ first :: rest) : (order first item).isLE := by
  rcases List.mem_cons.1 listed with rfl | later
  · exact Std.ReflCmp.isLE_rfl
  · exact List.rel_of_pairwise_cons inOrder later

/-- Lists in order are the same if they agree on the items that are like any given one. -/
theorem eq_of_filter_isAlike {first second : List α}
    (inOrder : first.Pairwise fun a b => (order a b).isLE)
    (inOrder' : second.Pairwise fun a b => (order a b).isLE)
    (same : ∀ item, first.filter (isAlike order item) = second.filter (isAlike order item)) :
    first = second := by
  have head {a : α} {rest others : List α}
      (same : (a :: rest).filter (isAlike order a) = others.filter (isAlike order a)) :
      a ∈ others := by
    rw [List.filter_cons_of_pos (isAlike_self a)] at same
    exact List.mem_of_mem_filter (same ▸ List.mem_cons_self)
  induction first generalizing second with
  | nil =>
    match second with
    | [] => rfl
    | b :: others => exact absurd (head (same b).symm) List.not_mem_nil
  | cons a rest ih =>
    match second with
    | [] => exact absurd (head (same a)) List.not_mem_nil
    | b :: others =>
      -- each head is listed in the other list, so neither is greater than the other
      have alike : order a b = .eq := Std.OrientedCmp.isLE_antisymm
        (isLE_of_mem_cons inOrder (head (same b).symm)) (isLE_of_mem_cons inOrder' (head (same a)))
      have also : isAlike order a b = true := beq_iff_eq.2 alike
      have whole := same a
      rw [List.filter_cons_of_pos (isAlike_self a), List.filter_cons_of_pos also] at whole
      obtain ⟨rfl, -⟩ := List.cons.inj whole
      refine congrArg (a :: ·) (ih inOrder.of_cons inOrder'.of_cons fun item => ?_)
      have whole := same item
      by_cases mine : isAlike order item a = true
      · rw [List.filter_cons_of_pos mine, List.filter_cons_of_pos mine] at whole
        exact (List.cons.inj whole).2
      · rwa [List.filter_cons_of_neg mine, List.filter_cons_of_neg mine] at whole

/-- An item divides a list in order into what is not greater and what is. -/
theorem exists_split (item : α) {items : List α}
    (inOrder : items.Pairwise fun a b => (order a b).isLE) :
    ∃ below above, items = below ++ above ∧ (∀ other ∈ below, order other item ≠ .gt) ∧
      ∀ other ∈ above, order other item = .gt := by
  induction items with
  | nil => exact ⟨[], [], rfl, by simp, by simp⟩
  | cons first rest ih =>
    by_cases greater : order first item = .gt
    · refine ⟨[], first :: rest, rfl, by simp, fun other listed => ?_⟩
      have least := isLE_of_mem_cons inOrder listed
      exact Std.OrientedCmp.gt_of_lt
        (Std.TransCmp.lt_of_lt_of_isLE (Std.OrientedCmp.lt_of_gt greater) least)
    · obtain ⟨below, above, rfl, notGreater, allGreater⟩ := ih inOrder.of_cons
      exact ⟨first :: below, above, rfl, List.forall_mem_cons.2 ⟨greater, notGreater⟩, allGreater⟩

/-- One more item goes behind those that are not greater. -/
theorem mergeSort_concat {items below above : List α} {item : α}
    (split : items.mergeSort (fun a b => (order a b).isLE) = below ++ above)
    (notGreater : ∀ other ∈ below, order other item ≠ .gt)
    (greater : ∀ other ∈ above, order other item = .gt) :
    (items ++ [item]).mergeSort (fun a b => (order a b).isLE) = below ++ item :: above := by
  have inOrder := pairwise_mergeSort_order order items
  rw [split] at inOrder
  obtain ⟨first, second, across⟩ := List.pairwise_append.1 inOrder
  refine eq_of_filter_isAlike (pairwise_mergeSort_order order _) ?_ fun own => ?_
  · refine List.pairwise_append.2 ⟨first, List.pairwise_cons.2 ⟨fun other listed => ?_, second⟩, ?_⟩
    · exact Ordering.isLE_of_eq_lt (Std.OrientedCmp.lt_of_gt (greater other listed))
    · intro other listed next isNext
      rcases List.mem_cons.1 isNext with rfl | isNext
      · exact Ordering.isLE_iff_ne_gt.2 (notGreater other listed)
      · exact across other listed next isNext
  · rw [filter_mergeSort_isAlike, List.filter_append, ← filter_mergeSort_isAlike items, split,
      List.filter_append, List.filter_append]
    by_cases mine : isAlike order own item = true
    · -- what is greater than the item is not like it, so the item is the last of its kind
      have none : above.filter (isAlike order own) = [] := by
        rw [List.filter_eq_nil_iff]
        intro other listed alike
        exact absurd (greater other listed) (by simp [order_eq_of_isAlike alike mine])
      simp [mine, none]
    · simp [mine]

end Stable

section Keys

variable (key : α → String)

theorem decide_le_trans (a b c : α) (first : decide (key a ≤ key b) = true)
    (second : decide (key b ≤ key c) = true) : decide (key a ≤ key c) = true :=
  decide_eq_true ((of_decide_eq_true first).trans (of_decide_eq_true second))

theorem decide_le_total (a b : α) :
    (decide (key a ≤ key b) || decide (key b ≤ key a)) = true := by
  simpa using le_total (key a) (key b)

theorem pairwise_mergeSort_by (items : List α) :
    (items.mergeSort fun a b => key a ≤ key b).Pairwise fun a b => key a ≤ key b :=
  (List.pairwise_mergeSort (decide_le_trans key) (decide_le_total key) items).imp
    of_decide_eq_true

/-- Sorting leaves the items of one key in their order. -/
theorem filter_mergeSort_by (items : List α) (own : String) :
    (items.mergeSort fun a b => key a ≤ key b).filter (key · == own) =
      items.filter (key · == own) := by
  refine filter_mergeSort_of_alike (decide_le_trans key) (decide_le_total key) ?_ items
  intro a b first second
  rw [beq_iff_eq.1 first, beq_iff_eq.1 second]
  exact decide_eq_true le_rfl

section Sorted

variable {key} {items : List α} (sorted : items.Pairwise fun a b => key a ≤ key b)
include sorted

/-- The items of the least key come first. -/
theorem filter_append_of_least {own : String} (least : ∀ item ∈ items, own ≤ key item) :
    items.filter (key · == own) ++ items.filter (!key · == own) = items := by
  induction items with
  | nil => rfl
  | cons item rest ih =>
    obtain ⟨below, sorted⟩ := List.pairwise_cons.1 sorted
    obtain ⟨here, later⟩ := List.forall_mem_cons.1 least
    by_cases same : key item = own
    · simp [same, ih sorted later]
    · have above : ∀ other ∈ rest, key other ≠ own := fun other listed equal =>
        same (le_antisymm (equal ▸ below other listed) here)
      have none : rest.filter (key · == own) = [] :=
        List.filter_eq_nil_iff.2 fun other listed => by simp [above other listed]
      have all : rest.filter (!key · == own) = rest :=
        List.filter_eq_self.2 fun other listed => by simp [above other listed]
      simp [same, none, all]

/-- Sorted items are those of one key after the other. -/
theorem flatMap_filter_of_sorted {keys : List String} (ascending : keys.Pairwise (· < ·))
    (listed : ∀ item ∈ items, key item ∈ keys) :
    (keys.flatMap fun own => items.filter (key · == own)) = items := by
  induction keys generalizing items with
  | nil =>
    exact (List.eq_nil_iff_forall_not_mem.2 fun item member =>
      List.not_mem_nil (listed item member)).symm
  | cons own rest ih =>
    obtain ⟨below, ascending⟩ := List.pairwise_cons.1 ascending
    have least : ∀ item ∈ items, own ≤ key item := by
      intro item member
      rcases List.mem_cons.1 (listed item member) with same | later
      · exact same.ge
      · exact (below _ later).le
    have others := ih (sorted.filter (!key · == own)) ascending (by
      intro item member
      obtain ⟨member, other⟩ := List.mem_filter.1 member
      exact (List.mem_cons.1 (listed item member)).resolve_left (by simpa using other))
    have kept : (rest.flatMap fun next => items.filter (key · == next)) =
        rest.flatMap fun next => (items.filter (!key · == own)).filter (key · == next) := by
      apply List.flatMap_congr
      intro next member
      rw [List.filter_filter]
      apply List.filter_congr
      intro item _
      by_cases mine : key item = next
      · simp [mine, (below next member).ne']
      · simp [mine]
    rw [List.flatMap_cons, kept, others]
    exact filter_append_of_least sorted least

end Sorted

end Keys

/-- Without repetitions, items come in the order of their first places. -/
theorem pairwise_idxOf_eraseDups (items : List String) :
    items.eraseDups.Pairwise fun a b => items.idxOf a < items.idxOf b := by
  induction items with
  | nil => exact .nil
  | cons first rest ih =>
    rw [List.eraseDups_cons, ← filter_eraseDups]
    have other {item : String} (kept : item ∈ rest.eraseDups.filter (!· == first)) :
        (first :: rest).idxOf item = rest.idxOf item + 1 := by
      have differs : item ≠ first := by simpa using (List.mem_filter.1 kept).2
      exact List.idxOf_cons_ne _ differs.symm
    refine List.pairwise_cons.2 ⟨fun item kept => ?_, ?_⟩
    · rw [other kept, List.idxOf_cons_self]
      exact Nat.succ_pos _
    · refine List.Pairwise.imp_of_mem (fun {a b} left right below => ?_) (ih.filter _)
      rw [other left, other right]
      exact Nat.succ_lt_succ below

end GraphSegments.Lists
