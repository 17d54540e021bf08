import GraphSegments.Proofs.Values.OrderedSets

/-!
Which one of equal values a set holds when values are inserted one after the other: the first that
was inserted. Inserting lists of values in another order leaves the set as it is, apart from which
one of equal values represents them, and each representative is one in the set of a single list.
-/

namespace GraphSegments.Value
open Std

/-- Lists that agree place by place up to the order of values. -/
abbrev Alike (first second : List Value) : Prop :=
  List.Forall₂ (fun a b => a.order b = .eq) first second

theorem Alike.eq_of_representatives {first second : List Value} (alike : Alike first second)
    (same : ∀ a ∈ first, ∀ b ∈ second, a.order b = .eq → a = b) : first = second := by
  induction alike with
  | nil => rfl
  | @cons a b rest more equal _ ih =>
    have here : a = b := same a List.mem_cons_self b List.mem_cons_self equal
    have later : rest = more := ih fun x left y right =>
      same x (List.mem_cons_of_mem a left) y (List.mem_cons_of_mem b right)
    rw [here, later]

/-- Their ends are alike, too. -/
theorem Alike.last {first second : List Value} (alike : Alike first second) :
    Alike first.getLast?.toList second.getLast?.toList := by
  have heads {left right : List Value} (alike : Alike left right) :
      Alike left.head?.toList right.head?.toList := by
    cases alike with
    | nil => exact .nil
    | cons equal _ => exact .cons equal .nil
  rw [← List.head?_reverse, ← List.head?_reverse]
  exact heads (List.forall₂_reverse_iff.2 alike)

/-- A value is inserted unless the set holds one that is equal to it. -/
theorem IsSetOf.mem_insertOrdered_iff {value member : Value} {set values : List Value}
    (isSet : IsSetOf set values) :
    member ∈ value.insertOrdered set ↔
      member ∈ set ∨ (member = value ∧ ∀ other ∈ set, value.order other ≠ .eq) := by
  have isNext : IsSetOf (value.insertOrdered set) (value :: values) :=
    isSet.insertOrdered fun _ => List.mem_cons
  constructor
  · intro listed
    by_cases known : member ∈ set
    · exact .inl known
    · obtain rfl := (mem_insertOrdered listed).resolve_right known
      refine .inr ⟨rfl, fun other there equal => known ?_⟩
      rwa [isNext.eq_of_order listed (subset_insertOrdered member set there) equal]
  · rintro (known | ⟨rfl, new⟩)
    · exact subset_insertOrdered value set known
    · obtain ⟨other, listed, equal⟩ := exists_mem_insertOrdered member set
      rcases mem_insertOrdered listed with rfl | known
      · exact listed
      · exact absurd equal (new other known)

theorem collected_append (values : List Value) (value : Value) :
    collected (values ++ [value]) = value.insertOrdered (collected values) := by
  rw [collected, List.foldl_append]
  rfl

/-- The set holds a value exactly if it is the first of those that are equal to it. -/
theorem mem_collected_iff {value : Value} {values : List Value} :
    value ∈ collected values ↔
      values.find? (fun other => value.order other == .eq) = some value := by
  induction values using List.reverseRecOn with
  | nil => simp [collected]
  | append_singleton values last ih =>
    have isSet := isSetOf_collected values
    rw [collected_append, isSet.mem_insertOrdered_iff, ih, List.find?_append]
    cases found : values.find? fun other => value.order other == .eq with
    | some first =>
      have equal : value.order first = .eq := by simpa using List.find?_some found
      obtain ⟨member, kept, same⟩ := isSet.complete first (List.mem_of_find?_eq_some found)
      have absurd : ¬ (value = last ∧ ∀ other ∈ collected values, last.order other ≠ .eq) := by
        rintro ⟨rfl, new⟩
        exact new member kept (TransCmp.eq_trans equal same)
      simp [absurd]
    | none =>
      have new : ∀ other ∈ values, value.order other ≠ .eq := by simpa using found
      constructor
      · rintro (known | ⟨rfl, -⟩)
        · cases known
        · have self : value.order value = .eq := ReflCmp.compare_self
          simp [self]
      · intro only
        obtain ⟨-, rfl⟩ : value.order last = .eq ∧ last = value := by
          simpa [List.find?_singleton] using only
        exact .inr ⟨rfl, fun other kept => new other (isSet.sound other kept)⟩

/-- What was collected first stays. -/
theorem collected_subset_append (values more : List Value) :
    collected values ⊆ collected (values ++ more) := by
  intro value kept
  rw [mem_collected_iff] at kept ⊢
  rw [List.find?_append, kept]
  rfl

/-- What is collected from several lists is collected from one of them. -/
theorem exists_mem_collected_of_flatten {value : Value} {parts : List (List Value)}
    (kept : value ∈ collected parts.flatten) : ∃ part ∈ parts, value ∈ collected part := by
  induction parts with
  | nil => exact absurd kept List.not_mem_nil
  | cons part rest ih =>
    rw [mem_collected_iff, List.flatten_cons, List.find?_append] at kept
    rcases Option.or_eq_some_iff.1 kept with here | ⟨-, later⟩
    · exact ⟨part, List.mem_cons_self, mem_collected_iff.2 here⟩
    · obtain ⟨other, listed, inside⟩ := ih (mem_collected_iff.2 later)
      exact ⟨other, List.mem_cons_of_mem part listed, inside⟩

/-- Sets of the same values are alike. -/
theorem IsSetOf.alike {values others set other : List Value}
    (same : ∀ value, value ∈ values ↔ value ∈ others) (isSet : IsSetOf set values)
    (isOther : IsSetOf other others) : Alike set other := by
  apply forall₂_of_multiplicity (isSet.ascending.imp Ordering.isLE_of_eq_lt)
    (isOther.ascending.imp Ordering.isLE_of_eq_lt)
  intro value
  have any (p : Value → Bool) : values.any p = others.any p :=
    Bool.eq_iff_iff.2 (by simp only [List.any_eq_true, same])
  rw [isSet.multiplicity, isOther.multiplicity, any]

/-- Lists of values in another order are collected alike. -/
theorem alike_collected_of_perm {parts others : List (List Value)} (perm : parts.Perm others) :
    Alike (collected parts.flatten) (collected others.flatten) :=
  (isSetOf_collected _).alike (fun _ => perm.flatten.mem_iff) (isSetOf_collected _)

end GraphSegments.Value
