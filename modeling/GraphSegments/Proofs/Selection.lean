import GraphSegments.Proofs.Sorting
import Mathlib.Data.List.Induction
import Mathlib.Data.List.InsertIdx

/-!
The first items in order, kept while the items come one after the other. The place of each item is
found by halving, so it is right only as long as what is kept is in order. What comes out are the
first items of the stable sort of all that came.
-/

namespace GraphSegments.Lists

variable {α : Type}

section Halving

/-- The place between `base` and `base + size` from which on something does not hold, found by
halving. -/
def halve (holds : Nat → Bool) (base size : Nat) : Nat :=
  if size ≤ 1 then
    if holds base then base + 1 else base
  else if holds (base + size / 2) then
    halve holds (base + size / 2) (size - size / 2)
  else halve holds base (size - size / 2)
termination_by size

/-- The number of items at the front of which something holds, found by halving. -/
def partitionPoint (holds : α → Bool) (items : List α) : Nat :=
  if items.isEmpty then 0 else halve (fun place => items[place]?.any holds) 0 items.length

theorem halve_eq {holds : Nat → Bool} {base size point : Nat} (some : 0 < size)
    (low : base ≤ point) (high : point ≤ base + size)
    (splits : ∀ place < base + size, holds place = true ↔ place < point) :
    halve holds base size = point := by
  fun_induction halve holds base size with
  | case1 base size single held =>
    have below := (splits base (by omega)).1 held
    omega
  | case2 base size single held =>
    have above := (splits base (by omega)).not.1 held
    omega
  | case3 base size several held ih =>
    have below := (splits (base + size / 2) (by omega)).1 held
    exact ih (by omega) (by omega) (by omega) fun place inside => splits place (by omega)
  | case4 base size several held ih =>
    have above := (splits (base + size / 2) (by omega)).not.1 held
    exact ih (by omega) low (by omega) fun place inside => splits place (by omega)

/-- Halving finds where a list is divided. -/
theorem partitionPoint_append {holds : α → Bool} {front back : List α}
    (all : ∀ item ∈ front, holds item = true) (none : ∀ item ∈ back, holds item = false) :
    partitionPoint holds (front ++ back) = front.length := by
  unfold partitionPoint
  split
  next empty =>
    have both := List.append_eq_nil_iff.1 (List.isEmpty_iff.1 empty)
    rw [both.1, List.length_nil]
  next some =>
    have size : (front ++ back).length = front.length + back.length := List.length_append
    have positive : 0 < (front ++ back).length := by
      rw [List.length_pos_iff]
      simpa using some
    refine halve_eq positive (Nat.zero_le _) (by omega) fun place inside => ?_
    rw [List.getElem?_append]
    split
    next before =>
      rw [List.getElem?_eq_getElem before]
      exact iff_of_true (all _ (List.getElem_mem before)) before
    next after =>
      have listed : place - front.length < back.length := by omega
      rw [List.getElem?_eq_getElem listed]
      exact iff_of_false (by simp [none _ (List.getElem_mem listed)]) after

theorem partitionPoint_map {β : Type} {f : α → β} {holds : α → Bool} {holds' : β → Bool}
    {items : List α} (agrees : ∀ item ∈ items, holds' (f item) = holds item) :
    partitionPoint holds' (items.map f) = partitionPoint holds items := by
  have same : (fun place : Nat => (items.map f)[place]?.any holds') =
      fun place : Nat => items[place]?.any holds := by
    funext place
    rw [List.getElem?_map, Option.any_map]
    cases found : items[place]? with
    | none => rfl
    | some item => exact agrees item (List.mem_of_getElem? found)
  rw [partitionPoint, partitionPoint, same, List.length_map, List.isEmpty_map]

end Halving

section Keeping

variable {β : Type} {order : α → α → Ordering} {capacity : Nat}

/-- Puts an item behind those that are not greater. If there is no room at that place, it is
refused, and if the items become too many, the last one goes out. -/
def keep (order : α → α → Ordering) (capacity : Nat) (held : List α) (item : α) : List α :=
  let place := partitionPoint (fun other => order other item != .gt) held
  if capacity ≤ place then held else (held.insertIdx place item).take capacity

/-- What is kept of items that come one after the other. -/
def keepAll (order : α → α → Ordering) (capacity : Nat) (items : List α) : List α :=
  items.foldl (keep order capacity) []

theorem keepAll_concat (items : List α) (item : α) :
    keepAll order capacity (items ++ [item]) =
      keep order capacity (keepAll order capacity items) item := by
  simp [keepAll]

/-- Nothing is kept that was not there and did not come. -/
theorem mem_of_mem_keep {held : List α} {item other : α}
    (listed : other ∈ keep order capacity held item) : other = item ∨ other ∈ held := by
  simp only [keep] at listed
  split at listed
  next => exact .inr listed
  next => exact List.eq_or_mem_of_mem_insertIdx (List.mem_of_mem_take listed)

theorem mem_of_mem_keepAll {items : List α} {item : α}
    (listed : item ∈ keepAll order capacity items) : item ∈ items := by
  induction items using List.reverseRecOn with
  | nil => exact listed
  | append_singleton items last ih =>
    rw [keepAll_concat] at listed
    rcases mem_of_mem_keep listed with rfl | held
    · exact List.mem_append_right _ List.mem_cons_self
    · exact List.mem_append_left _ (ih held)

/-- An item that is not kept any more does not come back by itself. -/
theorem mem_keepAll_append {items later : List α} {item : α}
    (listed : item ∈ keepAll order capacity (items ++ later)) :
    item ∈ keepAll order capacity items ∨ item ∈ later := by
  induction later using List.reverseRecOn with
  | nil => exact .inl (by simpa using listed)
  | append_singleton later last ih =>
    rw [← List.append_assoc, keepAll_concat] at listed
    rcases mem_of_mem_keep listed with rfl | held
    · exact .inr (List.mem_append_right _ List.mem_cons_self)
    · exact (ih held).imp_right (List.mem_append_left _)

/-- Items go the way of what they are compared by. -/
theorem map_keep {order' : β → β → Ordering} {f : α → β} {held : List α} {item : α}
    (agrees : ∀ other ∈ held, order other item = order' (f other) (f item)) :
    (keep order capacity held item).map f = keep order' capacity (held.map f) (f item) := by
  have place : partitionPoint (fun other => order' other (f item) != .gt) (held.map f) =
      partitionPoint (fun other => order other item != .gt) held :=
    partitionPoint_map fun other listed => by rw [agrees other listed]
  simp only [keep, place]
  split
  next => rfl
  next => rw [List.map_take, List.map_insertIdx]

theorem map_keepAll {order' : β → β → Ordering} {f : α → β} {items : List α}
    (agrees : ∀ a ∈ items, ∀ b ∈ items, order a b = order' (f a) (f b)) :
    (keepAll order capacity items).map f = keepAll order' capacity (items.map f) := by
  induction items using List.reverseRecOn with
  | nil => rfl
  | append_singleton items item ih =>
    have last : item ∈ items ++ [item] := List.mem_append_right _ List.mem_cons_self
    have before {other : α} (listed : other ∈ items) : other ∈ items ++ [item] :=
      List.mem_append_left _ listed
    have same := ih fun a first b second => agrees a (before first) b (before second)
    rw [keepAll_concat, List.map_append, List.map_singleton, keepAll_concat, ← same]
    exact map_keep fun other held => agrees other (before (mem_of_mem_keepAll held)) item last

theorem insertIdx_append (front back : List α) (item : α) :
    (front ++ back).insertIdx front.length item = front ++ item :: back := by
  induction front with
  | nil => rfl
  | cons first front ih => rw [List.cons_append, List.length_cons, List.insertIdx_succ_cons, ih,
      List.cons_append]

/-- What is refused and what goes out is all behind the capacity. -/
theorem keep_take {below above : List α} {item : α}
    (notGreater : ∀ other ∈ below, order other item ≠ .gt)
    (greater : ∀ other ∈ above, order other item = .gt) :
    keep order capacity ((below ++ above).take capacity) item =
      (below ++ item :: above).take capacity := by
  have place : partitionPoint (fun other => order other item != .gt)
      (below.take capacity ++ above.take (capacity - below.length)) =
        (below.take capacity).length := by
    apply partitionPoint_append
    · intro other listed
      simpa using notGreater other (List.mem_of_mem_take listed)
    · intro other listed
      simpa using greater other (List.mem_of_mem_take listed)
  simp only [keep, List.take_append, place]
  by_cases room : below.length < capacity
  · have whole : below.take capacity = below := List.take_of_length_le room.le
    rw [whole, if_neg (Nat.not_le.2 room), insertIdx_append, List.take_append, whole]
    congr 1
    obtain ⟨rest, more⟩ := Nat.exists_eq_add_of_lt room
    rw [show capacity - below.length = rest + 1 by omega, List.take_succ_cons, List.take_succ_cons,
      List.take_take, Nat.min_eq_left (Nat.le_succ rest)]
  · have none : capacity - below.length = 0 := by omega
    have full : capacity ≤ (below.take capacity).length := by
      rw [List.length_take]
      omega
    rw [if_pos full, none, List.take_zero, List.take_zero]

/-- What is kept are the first items of the stable sort of all that came. -/
theorem keepAll_eq_take_mergeSort [Std.TransCmp order] (items : List α) :
    keepAll order capacity items =
      (items.mergeSort fun a b => (order a b).isLE).take capacity := by
  induction items using List.reverseRecOn with
  | nil => simp [keepAll]
  | append_singleton items item ih =>
    obtain ⟨below, above, split, notGreater, greater⟩ :=
      exists_split item (pairwise_mergeSort_order order items)
    rw [keepAll_concat, ih, split, keep_take notGreater greater,
      mergeSort_concat split notGreater greater]

section Agreeing

/-! An order need be a total preorder on the items that come only. -/

variable {order' : α → α → Ordering} {items : List α}
  (agrees : ∀ a ∈ items, ∀ b ∈ items, order a b = order' a b)
include agrees

theorem mergeSort_of_agrees :
    items.mergeSort (fun a b => (order a b).isLE) =
      items.mergeSort fun a b => (order' a b).isLE := by
  have same := List.map_mergeSort (f := id) (s := fun a b => (order' a b).isLE)
    fun a listed b listed' => congrArg Ordering.isLE (agrees a listed b listed')
  rwa [List.map_id, List.map_id] at same

theorem keepAll_of_agrees [Std.TransCmp order'] :
    keepAll order capacity items =
      (items.mergeSort fun a b => (order a b).isLE).take capacity := by
  have same : (keepAll order capacity items).map id = keepAll order' capacity (items.map id) :=
    map_keepAll agrees
  rw [List.map_id, List.map_id] at same
  rw [same, keepAll_eq_take_mergeSort, mergeSort_of_agrees agrees]

theorem pairwise_mergeSort_of_agrees [Std.TransCmp order'] :
    (items.mergeSort fun a b => (order a b).isLE).Pairwise fun a b => (order a b).isLE := by
  rw [mergeSort_of_agrees agrees]
  refine (pairwise_mergeSort_order order' items).imp_of_mem fun first second below => ?_
  rwa [agrees _ (List.mem_mergeSort.1 first) _ (List.mem_mergeSort.1 second)]

end Agreeing

end Keeping

end GraphSegments.Lists
