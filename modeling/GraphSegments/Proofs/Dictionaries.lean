import Mathlib.Data.List.Sort
import GraphSegments.Dictionary

/-!
Dictionaries are known by what they find: inserting changes what is found under one key, and two
dictionaries that find the same are equal.
-/

namespace GraphSegments.Dictionary

variable {α β : Type} {dictionary : Dictionary α} {key : String} {value : α}

/-- A dictionary finds what it lists: no key is listed twice. -/
theorem find?_eq_some :
    dictionary.find? key = some value ↔ (key, value) ∈ dictionary.entries := by
  constructor
  · intro found
    obtain ⟨⟨other, _⟩, first, rfl⟩ := Option.map_eq_some_iff.1 found
    obtain rfl : other = key := by simpa using List.find?_some first
    exact List.mem_of_find?_eq_some first
  · intro listed
    obtain ⟨entries, ascending⟩ := dictionary
    change (entries.find? (·.1 == key)).map (·.2) = some value
    induction entries with
    | nil => exact absurd listed List.not_mem_nil
    | cons first rest ih =>
      obtain ⟨below, ascending⟩ := List.pairwise_cons.1 ascending
      rcases List.mem_cons.1 listed with rfl | later
      · simp
      · have differs : first.1 ≠ key := String.ne_of_lt (below _ later)
        rw [List.find?_cons_of_neg (by simpa using differs)]
        exact ih ascending later

/-- Where no key is listed twice, the entries of a key are one entry. -/
theorem filter_eq_singleton {entries : List (String × α)} (distinct : (entries.map (·.1)).Nodup)
    (listed : (key, value) ∈ entries) : entries.filter (·.1 == key) = [(key, value)] := by
  induction entries with
  | nil => exact absurd listed List.not_mem_nil
  | cons first rest ih =>
    obtain ⟨new, distinct⟩ := List.nodup_cons.1 distinct
    rcases List.mem_cons.1 listed with rfl | later
    · have others : rest.filter (·.1 == key) = [] := by
        rw [List.filter_eq_nil_iff]
        intro entry member same
        have same : entry.1 = key := by simpa using same
        exact new (List.mem_map.2 ⟨entry, member, same⟩)
      rw [List.filter_cons_of_pos (by simp), others]
    · have differs : first.1 ≠ key := fun same =>
        new (List.mem_map.2 ⟨_, later, same.symm⟩)
      rw [List.filter_cons_of_neg (by simpa using differs)]
      exact ih distinct later

theorem nodup_keys (dictionary : Dictionary α) : (dictionary.entries.map (·.1)).Nodup := by
  rw [List.Nodup, List.pairwise_map]
  exact dictionary.ascending.imp fun below => String.ne_of_lt below

theorem mem_keys : key ∈ dictionary.keys ↔ ∃ value, dictionary.find? key = some value := by
  simp [keys, find?_eq_some]

@[simp] theorem find?_empty (key : String) : (∅ : Dictionary α).find? key = none := rfl

theorem find?_insertInto (key other : String) (value : α) (entries : List (String × α)) :
    ((insertInto key value entries).find? (·.1 == other)).map (·.2) =
      if key = other then some value else (entries.find? (·.1 == other)).map (·.2) := by
  induction entries with
  | nil => by_cases same : key = other <;> simp [insertInto, same]
  | cons first rest ih =>
    obtain ⟨k, v⟩ := first
    unfold insertInto
    split
    next => by_cases same : key = other <;> simp [same]
    next notBelow =>
      split
      next above =>
        by_cases here : k = other
        · have differs : key ≠ other := here ▸ (String.ne_of_lt above).symm
          simp [here, differs]
        · simpa [here] using ih
      next notAbove =>
        obtain rfl : k = key :=
          String.le_antisymm (String.not_lt.1 notBelow) (String.not_lt.1 notAbove)
        by_cases same : k = other <;> simp [same]

@[simp] theorem find?_insert (dictionary : Dictionary α) (key other : String) (value : α) :
    (dictionary.insert key value).find? other =
      if key = other then some value else dictionary.find? other :=
  find?_insertInto key other value dictionary.entries

/-- Dictionaries that find the same are equal. -/
theorem ext {left right : Dictionary α} (same : ∀ key, left.find? key = right.find? key) :
    left = right := by
  have distinct (dictionary : Dictionary α) : dictionary.entries.Nodup :=
    dictionary.ascending.imp fun {a b} below (alike : a = b) => String.lt_irrefl _ (alike ▸ below)
  have members (entry : String × α) : entry ∈ left.entries ↔ entry ∈ right.entries := by
    rw [← find?_eq_some, ← find?_eq_some, same]
  have permuted := (List.perm_ext_iff_of_nodup (distinct left) (distinct right)).2 members
  have asymmetric (a b : String × α) (_ : a ∈ left.entries) (_ : b ∈ right.entries)
      (below : a.1 < b.1) (above : b.1 < a.1) : a = b :=
    absurd (String.lt_trans below above) (String.lt_irrefl _)
  have listed := permuted.eq_of_pairwise asymmetric left.ascending right.ascending
  cases left
  cases right
  simpa using listed

theorem find?_map (f : String → α → β) (dictionary : Dictionary α) (key : String) :
    (dictionary.map f).find? key = (dictionary.find? key).map (f key) := by
  have listed : (dictionary.map f).find? key =
      ((dictionary.entries.map fun (key, value) => (key, f key value)).find?
        (·.1 == key)).map (·.2) := rfl
  rw [listed, List.find?_map, find?, Option.map_map, Option.map_map]
  apply Option.map_congr
  intro entry found
  have same : entry.1 = key := by simpa using List.find?_some found
  simp [same]

/-- Putting what is there already changes nothing. -/
theorem insert_eq_self (there : dictionary.find? key = some value) :
    dictionary.insert key value = dictionary := by
  apply ext
  intro other
  rw [find?_insert]
  split
  next same => rw [← same, there]
  next => rfl

@[simp] theorem insert_insert (dictionary : Dictionary α) (key : String) (first second : α) :
    (dictionary.insert key first).insert key second = dictionary.insert key second := by
  apply ext
  intro other
  by_cases same : key = other <;> simp [same]

/-- Where no key is listed twice, what is inserted last is found first. -/
theorem find?_foldl_insert {entries : List (String × α)} (distinct : (entries.map (·.1)).Nodup)
    (start : Dictionary α) (key : String) :
    (entries.foldl (fun known (name, value) => known.insert name value) start).find? key =
      ((entries.find? (·.1 == key)).map (·.2)).or (start.find? key) := by
  induction entries generalizing start with
  | nil => simp
  | cons first rest ih =>
    obtain ⟨new, distinct⟩ := List.nodup_cons.1 distinct
    rw [List.foldl_cons, ih distinct, find?_insert]
    by_cases same : first.1 = key
    · have none : rest.find? (·.1 == key) = none := by
        rw [List.find?_eq_none]
        intro entry listed again
        exact new (List.mem_map.2 ⟨entry, listed, (beq_iff_eq.1 again).trans same.symm⟩)
      simp [same, none]
    · simp [same]

/-- A dictionary is made of its own entries. -/
theorem ofList_entries (dictionary : Dictionary α) : ofList dictionary.entries = dictionary := by
  refine ext fun key => ?_
  rw [ofList, find?_foldl_insert dictionary.nodup_keys, find?_empty, Option.or_none, find?]

end GraphSegments.Dictionary
