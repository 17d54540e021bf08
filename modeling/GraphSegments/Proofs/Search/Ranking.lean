import GraphSegments.Proofs.Sorting
import GraphSegments.Search.Ranking
import Mathlib.Data.List.Induction

/-!
A buffer that keeps only its best hits ends with the first ones of all hits in order: what it drops
on the way could not come back. Where hits are compared by a total preorder, putting one after the
other into its place is a stable sort.
-/

namespace GraphSegments

namespace Hit

variable {reverse : List Bool}

/-- The first hits after one more only depend on the first hits before. -/
theorem take_insertInto (hit : Hit) (hits : List Hit) (capacity : Nat) :
    (hit.insertInto reverse (hits.take capacity)).take capacity =
      (hit.insertInto reverse hits).take capacity := by
  induction hits generalizing capacity with
  | nil => rw [List.take_nil]
  | cons first rest ih =>
    cases capacity with
    | zero => rfl
    | succ capacity =>
      rw [List.take_succ_cons, insertInto, insertInto]
      split
      · have kept : (first :: rest.take capacity).take capacity = (first :: rest).take capacity := by
          rw [← List.take_succ_cons, List.take_take, Nat.min_eq_left (Nat.le_succ capacity)]
        rw [List.take_succ_cons, List.take_succ_cons, kept]
      · rw [List.take_succ_cons, List.take_succ_cons, ih]

/-- All hits in order, each behind those that came before it and are not greater. -/
def sorted (reverse : List Bool) (hits : List Hit) : List Hit :=
  hits.foldl (fun sorted hit => hit.insertInto reverse sorted) []

theorem sorted_concat (reverse : List Bool) (hits : List Hit) (hit : Hit) :
    sorted reverse (hits ++ [hit]) = hit.insertInto reverse (sorted reverse hits) :=
  List.foldl_concat ..

/-- A hit goes to its place between those that are not greater and those that are. -/
theorem insertInto_append {below above : List Hit} {hit : Hit}
    (notGreater : ∀ other ∈ below, other.order reverse hit ≠ .gt)
    (greater : ∀ other ∈ above, other.order reverse hit = .gt) :
    hit.insertInto reverse (below ++ above) = below ++ hit :: above := by
  induction below with
  | nil =>
    cases above with
    | nil => rfl
    | cons first rest => exact if_pos (greater first List.mem_cons_self)
  | cons first below ih =>
    obtain ⟨here, later⟩ := List.forall_mem_cons.1 notGreater
    rw [List.cons_append, insertInto, if_neg here, ih later, List.cons_append]

section Items

variable {α : Type} (ofItem : α → Hit) (order : α → α → Ordering) [Std.TransCmp order]

/-- Putting the hits of some items into their places one after the other is a stable sort of the
items. -/
theorem sorted_map {items : List α}
    (agrees : ∀ a ∈ items, ∀ b ∈ items, (ofItem a).order reverse (ofItem b) = order a b) :
    sorted reverse (items.map ofItem) =
      (items.mergeSort fun a b => (order a b).isLE).map ofItem := by
  induction items using List.reverseRecOn with
  | nil => simp [sorted]
  | append_singleton items item ih =>
    have last : item ∈ items ++ [item] := List.mem_append_right _ List.mem_cons_self
    have before {other : α} (listed : other ∈ items) : other ∈ items ++ [item] :=
      List.mem_append_left _ listed
    have sortedBefore := ih fun a first b second => agrees a (before first) b (before second)
    obtain ⟨below, above, split, notGreater, greater⟩ :=
      Lists.exists_split item (Lists.pairwise_mergeSort_order order items)
    have agreesLast : ∀ other ∈ below ++ above,
        (ofItem other).order reverse (ofItem item) = order other item := fun other listed =>
      agrees other (before (List.mem_mergeSort.1 (split ▸ listed))) item last
    rw [List.map_append, List.map_singleton, sorted_concat, sortedBefore, split,
      Lists.mergeSort_concat split notGreater greater, List.map_append, List.map_append,
      List.map_cons]
    apply insertInto_append
    · rw [List.forall_mem_map]
      intro other listed
      rw [agreesLast other (List.mem_append_left _ listed)]
      exact notGreater other listed
    · rw [List.forall_mem_map]
      intro other listed
      rw [agreesLast other (List.mem_append_right _ listed)]
      exact greater other listed

/-- The hits of some items in order are the hits of the items in order. -/
theorem exists_sorted (agrees : ∀ a b, (ofItem a).order reverse (ofItem b) = order a b)
    (items : List α) :
    ∃ ordered : List α, sorted reverse (items.map ofItem) = ordered.map ofItem ∧ ordered.Perm items ∧
      ordered.Pairwise fun a b => (order a b).isLE :=
  ⟨_, sorted_map ofItem order fun a _ b _ => agrees a b, List.mergeSort_perm ..,
    Lists.pairwise_mergeSort_order order items⟩

end Items

end Hit

namespace RankBuffer

/-- A buffer holds the first ones of all hits in order. -/
theorem hits_pushAll (capacity : Nat) (reverse : List Bool) (hits : List Hit) :
    ((empty capacity reverse).pushAll hits).hits = (Hit.sorted reverse hits).take capacity := by
  have run (start : List Hit) :
      ((⟨capacity, reverse, start.take capacity⟩ : RankBuffer).pushAll hits).hits =
        (hits.foldl (fun sorted hit => hit.insertInto reverse sorted) start).take capacity := by
    induction hits generalizing start with
    | nil => rfl
    | cons hit rest ih =>
      have pushed : (⟨capacity, reverse, start.take capacity⟩ : RankBuffer).push hit =
          ⟨capacity, reverse, (hit.insertInto reverse start).take capacity⟩ := by
        rw [push, Hit.take_insertInto]
      rw [List.foldl_cons, ← ih, ← pushed]
      rfl
  have began := run []
  rwa [List.take_nil] at began

/-- Dropping an offset from a buffer that holds a page more than the offset gives the page. -/
theorem drop_hits_pushAll (offset limit : Nat) (reverse : List Bool) (hits : List Hit) :
    ((empty (offset + limit) reverse).pushAll hits).hits.drop offset =
      ((Hit.sorted reverse hits).drop offset).take limit := by
  rw [hits_pushAll, List.drop_take, Nat.add_sub_cancel_left]

end RankBuffer

end GraphSegments
