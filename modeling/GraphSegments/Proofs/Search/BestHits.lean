import GraphSegments.Proofs.Search.Listing
import GraphSegments.Proofs.Search.Ranking
import GraphSegments.Proofs.Selection

/-!
The buffer of hits as a stable sort of bounded length. Hits with equally many keys are compared by a
total preorder, whatever the forms of their keys, so the buffer is in order after every push, and
what it put out could not have been among the best hits in the end.
-/

namespace GraphSegments

namespace HitKey

/-- The numbers that decide between keys of one form. -/
def orderPlaces : HitKey → List Nat
  | position segment place => [segment, place]
  | _ => []

/-- The text that decides between keys of one form. -/
def orderText : HitKey → String
  | text uri => uri
  | _ => ""

/-- The value that decides between keys of one form; a missing one is below all others. -/
def orderValue : HitKey → Option Value
  | value found => found
  | _ => none

/-- Keys are compared by form, places, text and value, in this order. -/
theorem order_eq (a b : HitKey) :
    a.order b = compareLex (compareOn rank) (compareLex (compareOn orderPlaces)
      (compareLex (compareOn orderText) (compareOn orderValue))) a b := by
  cases a with
  | position s m =>
    cases b with
    | position t n =>
      simp [order, compareLex, compareOn, rank, orderPlaces, orderText, orderValue]
    | text _ | value _ => rfl
  | text uri =>
    cases b with
    | text other => simp [order, compareLex, compareOn, rank, orderPlaces, orderText, orderValue]
    | position _ _ | value _ => rfl
  | value found =>
    cases b with
    | value other =>
      simp [SortRule.order_value, compareLex, compareOn, rank, orderPlaces, orderText, orderValue]
    | position _ _ | text _ => cases found <;> rfl

instance : Std.TransCmp order := by
  have same : order = compareLex (compareOn rank) (compareLex (compareOn orderPlaces)
      (compareLex (compareOn orderText) (compareOn orderValue))) := by
    funext a b
    exact order_eq a b
  rw [same]
  infer_instance

instance : Ord HitKey := ⟨order⟩

instance : Std.TransOrd HitKey := inferInstanceAs (Std.TransCmp order)

/-- The order of keys that may be missing; a missing one is below all others. -/
def orderFlagged (reversed : Bool) (a b : Option HitKey) : Ordering :=
  if reversed then compare b a else compare a b

instance (reversed : Bool) : Std.TransCmp (orderFlagged reversed) := by
  cases reversed with
  | false => exact inferInstanceAs (Std.TransCmp fun a b : Option HitKey => compare a b)
  | true => exact inferInstanceAs (Std.TransCmp fun a b : Option HitKey => compare b a)

theorem orderFlagged_some (reversed : Bool) (a b : HitKey) :
    orderFlagged reversed (some a) (some b) =
      if reversed then (a.order b).swap else a.order b := by
  cases reversed with
  | false => rfl
  | true =>
    have swapped : b.order a = (a.order b).swap := Std.OrientedCmp.eq_swap
    exact swapped

end HitKey

namespace Hit

theorem transCmp_comp {α β : Type} {order : β → β → Ordering} [Std.TransCmp order] (f : α → β) :
    Std.TransCmp fun a b => order (f a) (f b) where
  eq_swap := Std.OrientedCmp.eq_swap
  isLE_trans := Std.TransCmp.isLE_trans

/-- The order of lists of keys in which a key that is missing is below all others. -/
def orderFilled : List Bool → List HitKey → List HitKey → Ordering
  | [] => fun _ _ => .eq
  | reversed :: flags =>
    compareLex (fun a b => HitKey.orderFlagged reversed a.head? b.head?)
      fun a b => orderFilled flags a.tail b.tail

instance (reverse : List Bool) : Std.TransCmp (orderFilled reverse) := by
  induction reverse with
  | nil => exact inferInstanceAs (Std.TransCmp (compareOn fun _ : List HitKey => ()))
  | cons reversed flags ih =>
    have first : Std.TransCmp fun a b : List HitKey =>
        HitKey.orderFlagged reversed a.head? b.head? := transCmp_comp List.head?
    have rest : Std.TransCmp fun a b : List HitKey => orderFilled flags a.tail b.tail :=
      transCmp_comp List.tail
    exact inferInstanceAs (Std.TransCmp (compareLex _ _))

/-- Of equally many keys none is missing. -/
theorem orderKeys_eq_orderFilled {reverse : List Bool} {a b : List HitKey}
    (alike : a.length = b.length) : orderKeys a b reverse = orderFilled reverse a b := by
  induction reverse generalizing a b with
  | nil => cases a <;> cases b <;> rfl
  | cons reversed flags ih =>
    match a, b with
    | [], [] =>
      have same : orderFilled (reversed :: flags) [] [] = .eq := Std.ReflCmp.compare_self
      exact same.symm
    | x :: a, y :: b =>
      rw [orderKeys, ih (Nat.succ.inj alike), ← HitKey.orderFlagged_some]
      rfl

/-- The order of hits, with missing keys below all others: a total preorder of all hits. -/
def orderAll (reverse : List Bool) : Hit → Hit → Ordering :=
  compareLex (fun a b => orderFilled reverse a.keys b.keys)
    (compareLex (fun a b => b.score.totalCompare a.score) (compareOn uri))

instance (reverse : List Bool) : Std.TransCmp (orderAll reverse) := by
  have keys : Std.TransCmp fun a b : Hit => orderFilled reverse a.keys b.keys :=
    transCmp_comp keys
  have scores : Std.TransCmp fun a b : Hit => b.score.totalCompare a.score :=
    inferInstanceAs (Std.TransCmp fun a b : Hit =>
      compareOn (fun hit : Hit => BinaryFormat.double.orderKey hit.score.pattern) b a)
  exact inferInstanceAs (Std.TransCmp (compareLex _ (compareLex _ _)))

theorem order_eq_orderAll {reverse : List Bool} {a b : Hit}
    (alike : a.keys.length = b.keys.length) : a.order reverse b = orderAll reverse a b := by
  rw [order, orderKeys_eq_orderFilled alike]
  rfl

/-- All hits in order. Those that are not told apart stay in the order in which they came. -/
def inOrder (reverse : List Bool) (hits : List Hit) : List Hit :=
  hits.mergeSort fun a b => (a.order reverse b).isLE

/-- All hits in order, each with its place among those that came. -/
def ranking (reverse : List Bool) (hits : List Hit) : List (Hit × Nat) :=
  hits.zipIdx.mergeSort fun a b => (a.1.order reverse b.1).isLE

theorem map_fst_ranking (reverse : List Bool) (hits : List Hit) :
    (ranking reverse hits).map Prod.fst = inOrder reverse hits := by
  have same := List.map_mergeSort (r := fun a b : Hit × Nat => (a.1.order reverse b.1).isLE)
    (s := fun a b => (a.order reverse b).isLE) (f := Prod.fst) (l := hits.zipIdx)
    fun _ _ _ _ => rfl
  rwa [List.zipIdx_map_fst] at same

section Alike

variable {reverse : List Bool} {hits : List Hit}
  (alike : ∀ a ∈ hits, ∀ b ∈ hits, a.keys.length = b.keys.length)
include alike

variable (reverse) in
theorem agrees_orderAll : ∀ a ∈ hits, ∀ b ∈ hits, a.order reverse b = orderAll reverse a b :=
  fun a listed b listed' => order_eq_orderAll (alike a listed b listed')

/-- Putting one hit after the other into its place is a stable sort. -/
theorem sorted_eq_inOrder : sorted reverse hits = inOrder reverse hits := by
  have agrees := agrees_orderAll reverse alike
  have whole := sorted_map id (orderAll reverse) agrees
  rwa [List.map_id, List.map_id, ← Lists.mergeSort_of_agrees agrees] at whole

theorem pairwise_inOrder : (inOrder reverse hits).Pairwise fun a b => (a.order reverse b).isLE :=
  Lists.pairwise_mergeSort_of_agrees (agrees_orderAll reverse alike)

theorem keepAll_eq_take (capacity : Nat) :
    Lists.keepAll (order reverse) capacity hits = (inOrder reverse hits).take capacity :=
  Lists.keepAll_of_agrees (agrees_orderAll reverse alike)

end Alike

/-- The places from which the hits came that a buffer of some capacity still holds. -/
def held (capacity : Nat) (reverse : List Bool) (hits : List Hit) : List (Hit × Nat) :=
  Lists.keepAll (fun a b => a.1.order reverse b.1) capacity hits.zipIdx

theorem map_fst_held (capacity : Nat) (reverse : List Bool) (hits : List Hit) :
    (held capacity reverse hits).map Prod.fst = Lists.keepAll (order reverse) capacity hits := by
  have same : (held capacity reverse hits).map Prod.fst =
      Lists.keepAll (order reverse) capacity (hits.zipIdx.map Prod.fst) :=
    Lists.map_keepAll fun _ _ _ _ => rfl
  rwa [List.zipIdx_map_fst] at same

theorem held_eq_take {reverse : List Bool} {hits : List Hit}
    (alike : ∀ a ∈ hits, ∀ b ∈ hits, a.keys.length = b.keys.length) (capacity : Nat) :
    held capacity reverse hits = (ranking reverse hits).take capacity := by
  have total : Std.TransCmp fun a b : Hit × Nat => orderAll reverse a.1 b.1 :=
    transCmp_comp Prod.fst
  have agrees : ∀ a ∈ hits.zipIdx, ∀ b ∈ hits.zipIdx,
      a.1.order reverse b.1 = orderAll reverse a.1 b.1 := fun a listed b listed' =>
    agrees_orderAll reverse alike a.1 (List.fst_mem_of_mem_zipIdx listed) b.1
      (List.fst_mem_of_mem_zipIdx listed')
  exact Lists.keepAll_of_agrees agrees

/-- What is not held any more is not held later. -/
theorem not_mem_held_append {capacity : Nat} {reverse : List Bool} {pushed later : List Hit}
    {placed : Hit × Nat} (listed : placed ∈ pushed.zipIdx)
    (out : placed ∉ held capacity reverse pushed) :
    placed ∉ held capacity reverse (pushed ++ later) := by
  intro back
  rw [held, List.zipIdx_append] at back
  rcases Lists.mem_keepAll_append back with still | new
  · exact out still
  · have below := (List.mem_zipIdx listed).2.1
    have above := (List.mem_zipIdx new).1
    omega

end Hit

namespace RankBuffer

/-- A buffer is a stable sort of bounded length: in the end it holds the first hits of all that were
pushed, in order. At every moment before, it holds what it would if the place of each hit were found
by halving; it is in order and as full as it can be; and no hit that was pushed and is not held any
more is among the first ones in the end. -/
theorem buffer_is_stable_sort (capacity : Nat) (reverse : List Bool) {hits : List Hit}
    (alike : ∀ a ∈ hits, ∀ b ∈ hits, a.keys.length = b.keys.length) :
    ((empty capacity reverse).pushAll hits).hits = (Hit.inOrder reverse hits).take capacity ∧
      (Hit.ranking reverse hits).map Prod.fst = Hit.inOrder reverse hits ∧
      ∀ pushed later, hits = pushed ++ later →
        let buffer := (empty capacity reverse).pushAll pushed
        buffer.hits = Lists.keepAll (Hit.order reverse) capacity pushed ∧
        buffer.hits.Pairwise (fun a b => (a.order reverse b).isLE) ∧
        buffer.hits.length = min capacity pushed.length ∧
        (Hit.held capacity reverse pushed).map Prod.fst = buffer.hits ∧
        ∀ placed ∈ pushed.zipIdx, placed ∉ Hit.held capacity reverse pushed →
          placed ∉ (Hit.ranking reverse hits).take capacity := by
  have first {hits : List Hit} (alike : ∀ a ∈ hits, ∀ b ∈ hits, a.keys.length = b.keys.length) :
      ((empty capacity reverse).pushAll hits).hits = (Hit.inOrder reverse hits).take capacity := by
    rw [hits_pushAll, Hit.sorted_eq_inOrder alike]
  refine ⟨first alike, Hit.map_fst_ranking reverse hits, ?_⟩
  intro pushed later whole buffer
  have alikeBefore : ∀ a ∈ pushed, ∀ b ∈ pushed, a.keys.length = b.keys.length := by
    intro a listed b listed'
    exact alike a (whole ▸ List.mem_append_left _ listed) b
      (whole ▸ List.mem_append_left _ listed')
  have best : buffer.hits = (Hit.inOrder reverse pushed).take capacity := first alikeBefore
  have kept : buffer.hits = Lists.keepAll (Hit.order reverse) capacity pushed := by
    rw [best, Hit.keepAll_eq_take alikeBefore]
  refine ⟨kept, ?_, ?_, ?_, ?_⟩
  · rw [best]
    exact (Hit.pairwise_inOrder alikeBefore).sublist (List.take_sublist ..)
  · rw [best, List.length_take, Hit.inOrder, List.length_mergeSort]
  · rw [kept, Hit.map_fst_held]
  · intro placed listed out
    rw [← Hit.held_eq_take alike, whole]
    exact Hit.not_mem_held_append listed out

/-- Reversed keys put missing values last. A buffer for two hits refuses none of these, and puts the
first one out when the last one comes. -/
theorem buffer_is_stable_sort_missing_last :
    let hit (uri : String) (found : Option Value) : Hit := ⟨uri, 0, [.value found], .zero⟩
    let hits := [hit "urn:a" none, hit "urn:b" (some (.integer 1)), hit "urn:c" (some (.integer 5))]
    (∀ a ∈ hits, ∀ b ∈ hits, a.keys.length = b.keys.length) ∧
      (Hit.inOrder [true] hits).take 2 =
        [hit "urn:c" (some (.integer 5)), hit "urn:b" (some (.integer 1))] ∧
      (hit "urn:a" none, 0) ∉ (Hit.ranking [true] hits).take 2 := by
  intro hit hits
  have alike : ∀ a ∈ hits, ∀ b ∈ hits, a.keys.length = b.keys.length := by decide
  obtain ⟨final, -, moments⟩ := buffer_is_stable_sort 2 [true] alike
  have held : Hit.held 2 [true] hits =
      [(hit "urn:c" (some (.integer 5)), 2), (hit "urn:b" (some (.integer 1)), 1)] := by
    decide +kernel
  refine ⟨alike, ?_, ?_⟩
  · rw [← final]
    decide +kernel
  · refine (moments hits [] (List.append_nil _).symm).2.2.2.2 _ (by decide) ?_
    rw [held]
    decide

end RankBuffer

end GraphSegments
