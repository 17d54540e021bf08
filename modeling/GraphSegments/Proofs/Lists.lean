/-!
Lists without repetition and lists in parts.
-/

namespace GraphSegments.Lists

variable {α β : Type}

theorem eraseDups_of_alike [BEq β] [LawfulBEq β] (key : α → β) {items : List α} {only : β}
    (alike : ∀ item ∈ items, key item = only) (some : items ≠ []) :
    (items.map key).eraseDups = [only] := by
  cases items with
  | nil => exact absurd rfl some
  | cons first rest =>
    obtain ⟨here, later⟩ := List.forall_mem_cons.1 alike
    have none : (rest.map key).filter (fun other => !other == key first) = [] := by
      rw [List.filter_eq_nil_iff]
      intro other listed
      obtain ⟨item, member, rfl⟩ := List.mem_map.1 listed
      simp [here, later item member]
    rw [List.map_cons, List.eraseDups_cons, none, here]
    rfl

/-- Repetitions are found by what they are compared by. -/
theorem map_eraseDupsBy [BEq β] {alike : α → α → Bool} (key : α → β) (items : List α)
    (same : ∀ a ∈ items, ∀ b ∈ items, alike a b = (key a == key b)) :
    (items.eraseDupsBy alike).map key = (items.map key).eraseDups := by
  match items with
  | [] => rfl
  | first :: rest =>
    have kept : ∀ item ∈ rest, decide (alike item first = false) = !(key item == key first) := by
      intro item listed
      rw [same item (List.mem_cons_of_mem _ listed) first List.mem_cons_self]
      cases key item == key first <;> rfl
    rw [List.eraseDupsBy_cons, List.map_cons, List.map_cons, List.eraseDups_cons, List.filter_map,
      List.filter_congr kept]
    refine congrArg _ (map_eraseDupsBy key _ fun a left b right => ?_)
    exact same a (List.mem_cons_of_mem _ (List.mem_filter.1 left).1) b
      (List.mem_cons_of_mem _ (List.mem_filter.1 right).1)
termination_by items.length
decreasing_by
  simp only [List.length_cons]
  exact Nat.lt_succ_of_le (List.length_filter_le _ _)

/-- What can be taken back repeats only where the items do. -/
theorem map_eraseDups_of_undone [BEq α] [LawfulBEq α] [BEq β] [LawfulBEq β] {there : α → β}
    {back : β → α} {items : List α} (undone : ∀ item ∈ items, back (there item) = item) :
    (items.map there).eraseDups.map back = items.eraseDups := by
  have same : ∀ a ∈ items.map there, ∀ b ∈ items.map there, (a == b) = (back a == back b) := by
    intro a listed b listed'
    obtain ⟨item, member, rfl⟩ := List.mem_map.1 listed
    obtain ⟨item', member', rfl⟩ := List.mem_map.1 listed'
    have alike : there item = there item' ↔ item = item' :=
      ⟨fun alike => by rw [← undone item member, alike, undone item' member'], congrArg there⟩
    rw [undone item member, undone item' member', Bool.eq_iff_iff, beq_iff_eq, beq_iff_eq, alike]
  have taken : (items.map there).map back = items :=
    List.map_map.trans ((List.map_congr_left undone).trans (List.map_id items))
  calc
    _ = ((items.map there).map back).eraseDups := map_eraseDupsBy back _ same
    _ = items.eraseDups := by rw [taken]

/-- It does not matter whether items are chosen before or after repetitions are left out. -/
theorem filter_eraseDups [BEq α] [LawfulBEq α] (keep : α → Bool) (items : List α) :
    items.eraseDups.filter keep = (items.filter keep).eraseDups := by
  match items with
  | [] => rfl
  | first :: rest =>
    have inner := filter_eraseDups keep (rest.filter fun item => !item == first)
    rw [List.eraseDups_cons]
    by_cases kept : keep first = true
    · rw [List.filter_cons_of_pos kept, List.filter_cons_of_pos kept, List.eraseDups_cons, inner,
        List.filter_filter, List.filter_filter]
      simp only [Bool.and_comm]
    · have fresh : (rest.filter fun item => !item == first).filter keep = rest.filter keep := by
        rw [List.filter_filter]
        apply List.filter_congr
        intro item _
        by_cases same : item = first
        · simp [same, kept]
        · simp [same]
      rw [List.filter_cons_of_neg kept, List.filter_cons_of_neg kept, inner, fresh]
termination_by items.length
decreasing_by
  simp only [List.length_cons]
  exact Nat.lt_succ_of_le (List.length_filter_le _ _)

theorem eraseDups_of_nodup {items : List String} (distinct : items.Nodup) :
    items.eraseDups = items := by
  induction items with
  | nil => rfl
  | cons first rest ih =>
    obtain ⟨fresh, distinct⟩ := List.nodup_cons.1 distinct
    have all : rest.filter (fun item => !item == first) = rest :=
      List.filter_eq_self.2 fun item listed => by
        simpa using fun same : item = first => fresh (same ▸ listed)
    rw [List.eraseDups_cons, all, ih distinct]

theorem nodup_eraseDups (uris : List String) : uris.eraseDups.Nodup := by
  match uris with
  | [] => exact .nil
  | uri :: rest =>
    rw [List.eraseDups_cons, List.nodup_cons]
    refine ⟨by simp, nodup_eraseDups _⟩
termination_by uris.length
decreasing_by
  simp only [List.length_cons]
  exact Nat.lt_succ_of_le (List.length_filter_le _ _)

theorem eraseDups_sublist (items : List String) : items.eraseDups.Sublist items := by
  match items with
  | [] => exact .slnil
  | first :: rest =>
    rw [List.eraseDups_cons]
    exact ((eraseDups_sublist _).trans List.filter_sublist).cons_cons first
termination_by items.length
decreasing_by
  simp only [List.length_cons]
  exact Nat.lt_succ_of_le (List.length_filter_le _ _)

/-- Leaving out repetitions makes a list shorter, unless there are none. -/
theorem length_eraseDups_eq_iff {items : List String} :
    items.eraseDups.length = items.length ↔ items.Nodup := by
  constructor
  · intro same
    exact (eraseDups_sublist items).eq_of_length same ▸ nodup_eraseDups items
  · intro distinct
    rw [eraseDups_of_nodup distinct]

/-- Sorting by what all items have in common leaves them in their order. -/
theorem mergeSort_of_alike (key : α → String) {items : List α} {uri : String}
    (alike : ∀ item ∈ items, key item = uri) :
    items.mergeSort (fun a b => key a ≤ key b) = items := by
  apply List.mergeSort_of_pairwise
  refine List.Pairwise.imp_of_mem (fun {a b} first second _ => ?_)
    (List.pairwise_of_forall fun _ _ => trivial)
  rw [alike a first, alike b second]
  exact decide_eq_true (String.le_refl uri)

/-- Pairs with a key come from the items with that key. -/
theorem filter_pairs {γ : Type} [BEq γ] [LawfulBEq γ] (key : α → γ) (value? : α → Option β) (own : γ)
    (items : List α) :
    (items.filterMap fun item => (value? item).map (Prod.mk (key item))).filter (·.1 == own) =
      ((items.filter (key · == own)).filterMap value?).map (Prod.mk own) := by
  induction items with
  | nil => rfl
  | cons item rest ih =>
    by_cases mine : key item = own <;> cases held : value? item <;> simp [mine, held, ih]

/-- Values can be chosen by the items that they come from. -/
theorem filter_filterMap_of {value? : α → Option β} {keep : β → Bool} {own : α → Bool}
    {items : List α} (same : ∀ item value, value? item = some value → keep value = own item) :
    (items.filterMap value?).filter keep = (items.filter own).filterMap value? := by
  induction items with
  | nil => rfl
  | cons item rest ih =>
    cases held : value? item with
    | none => by_cases mine : own item = true <;> simp [held, mine, ih]
    | some value =>
      have chosen := same item value held
      by_cases mine : own item = true <;> simp [held, chosen, mine, ih]

section Parts

variable [DecidableEq α] {parts : List (List α)} {item : α}

/-- What only one of several parts contributes is there once. -/
theorem flatMap_of_once (once : parts.Pairwise fun a b => item ∈ a → item ∉ b)
    (listed : item ∈ parts.flatten) (found : List β) :
    (parts.flatMap fun part => if item ∈ part then found else []) = found := by
  induction parts with
  | nil => cases listed
  | cons part rest ih =>
    obtain ⟨apart, once⟩ := List.pairwise_cons.1 once
    rw [List.flatten_cons] at listed
    rw [List.flatMap_cons]
    by_cases here : item ∈ part
    · have later : (rest.flatMap fun part => if item ∈ part then found else []) = [] := by
        rw [List.flatMap_eq_nil_iff]
        intro other member
        exact if_neg (apart other member here)
      rw [if_pos here, later, List.append_nil]
    · rw [if_neg here, List.nil_append]
      exact ih once ((List.mem_append.1 listed).resolve_left here)

/-- What two of several parts contribute is there twice. -/
theorem sublist_flatMap_of_twice (twice : ¬ parts.Pairwise fun a b => item ∈ a → item ∉ b)
    (found : List β) :
    (found ++ found).Sublist (parts.flatMap fun part => if item ∈ part then found else []) := by
  induction parts with
  | nil => exact absurd List.Pairwise.nil twice
  | cons part rest ih =>
    rw [List.flatMap_cons]
    by_cases again : rest.Pairwise fun a b => item ∈ a → item ∉ b
    · have both : item ∈ part ∧ item ∈ rest.flatten := by
        refine Decidable.byContradiction fun none => twice (List.pairwise_cons.2 ⟨?_, again⟩)
        exact fun other member here there =>
          none ⟨here, List.mem_flatten.2 ⟨other, member, there⟩⟩
      rewrite [if_pos both.1, flatMap_of_once again both.2]
      exact .refl _
    · exact (ih again).trans (List.sublist_append_right _ _)

end Parts

/-- Consecutive slices join to the front of a list. -/
theorem flatMap_slices (items : List α) (size count : Nat) :
    ((List.range count).flatMap fun number => (items.drop (number * size)).take size) =
      items.take (count * size) := by
  induction count with
  | zero => simp
  | succ count ih =>
    rw [List.range_succ, List.flatMap_append, ih, List.flatMap_singleton, Nat.succ_mul,
      List.take_add]

end GraphSegments.Lists
