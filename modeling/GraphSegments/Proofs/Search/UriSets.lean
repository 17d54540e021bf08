import GraphSegments.Proofs.Lists
import GraphSegments.Search.UriSet

/-!
Sets of URIs are known by their members: every operation gives an ascending list without
repetition, and two such lists with the same members are equal.
-/

namespace GraphSegments.UriSet

/-- The form that every set of URIs has. -/
def IsAscending (uris : UriSet) : Prop := uris.Pairwise (· < ·)

theorem ascending_ofList (uris : List String) : IsAscending (ofList uris) := by
  have sorted : (ofList uris).Pairwise fun a b => a ≤ b := by
    have transitive (a b c : String) (first : decide (a ≤ b) = true)
        (second : decide (b ≤ c) = true) : decide (a ≤ c) = true :=
      decide_eq_true (String.le_trans (of_decide_eq_true first) (of_decide_eq_true second))
    have total (a b : String) : (decide (a ≤ b) || decide (b ≤ a)) = true := by
      simpa using String.le_total a b
    have pairs := List.pairwise_mergeSort transitive total uris.eraseDups
    simpa only [ofList, decide_eq_true_eq] using pairs
  have different : (ofList uris).Nodup :=
    (List.mergeSort_perm _ _).nodup_iff.2 (Lists.nodup_eraseDups uris)
  apply (List.pairwise_and_iff.2 ⟨sorted, different⟩).imp
  intro a b both
  obtain ⟨below, distinct⟩ := both
  exact String.not_le.1 fun above => distinct (String.le_antisymm below above)

theorem ascending_nil : IsAscending [] := List.Pairwise.nil

theorem IsAscending.inter {a : UriSet} (ascending : IsAscending a) (b : UriSet) :
    IsAscending (inter a b) := List.Pairwise.filter _ ascending

theorem IsAscending.diff {a : UriSet} (ascending : IsAscending a) (b : UriSet) :
    IsAscending (diff a b) := List.Pairwise.filter _ ascending

theorem ascending_union (a b : UriSet) : IsAscending (union a b) := ascending_ofList _

theorem IsAscending.nodup {a : UriSet} (ascending : IsAscending a) : a.Nodup := by
  refine List.Pairwise.imp ?_ ascending
  intro x y below same
  exact String.lt_irrefl y (same ▸ below)

/-- Sets with the same members are equal. -/
theorem IsAscending.ext {a b : UriSet} (left : IsAscending a) (right : IsAscending b)
    (same : ∀ uri, uri ∈ a ↔ uri ∈ b) : a = b := by
  have perm := (List.perm_ext_iff_of_nodup left.nodup right.nodup).2 same
  have asymmetric (x y : String) (_ : x ∈ a) (_ : y ∈ b) (below : x < y) (above : y < x) :
      x = y := absurd (String.lt_trans below above) (String.lt_irrefl x)
  exact perm.eq_of_pairwise asymmetric left right

end GraphSegments.UriSet
