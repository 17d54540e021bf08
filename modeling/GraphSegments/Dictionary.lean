/-!
Dictionaries keyed by text, kept as a list of entries with strictly ascending keys, so that two
dictionaries with the same entries are equal and their order is the order of the keys.
-/

namespace GraphSegments

universe u

/-- A finite map from texts, in ascending order of the keys. -/
structure Dictionary (α : Type u) where
  entries : List (String × α)
  ascending : entries.Pairwise fun a b => a.1 < b.1
  deriving DecidableEq

namespace Dictionary

variable {α : Type u}

instance : Inhabited (Dictionary α) := ⟨⟨[], .nil⟩⟩

instance : EmptyCollection (Dictionary α) := ⟨⟨[], .nil⟩⟩

/-- Puts a value under a key into ascending entries, in place of the one that is there. -/
def insertInto (key : String) (value : α) : List (String × α) → List (String × α)
  | [] => [(key, value)]
  | (k, v) :: rest =>
    if key < k then (key, value) :: (k, v) :: rest
    else if k < key then (k, v) :: insertInto key value rest
    else (k, value) :: rest

theorem key_of_mem_insertInto {key : String} {value : α} {entries : List (String × α)}
    {entry : String × α} (member : entry ∈ insertInto key value entries) :
    entry.1 = key ∨ ∃ old ∈ entries, old.1 = entry.1 := by
  induction entries with
  | nil => simp only [insertInto, List.mem_singleton] at member; exact .inl (by rw [member])
  | cons first rest ih =>
    unfold insertInto at member
    split at member
    next =>
      rcases List.mem_cons.1 member with rfl | old
      · exact .inl rfl
      · exact .inr ⟨entry, old, rfl⟩
    next =>
      split at member
      next =>
        rcases List.mem_cons.1 member with rfl | inserted
        · exact .inr ⟨_, List.mem_cons_self, rfl⟩
        · rcases ih inserted with same | ⟨old, inRest, same⟩
          · exact .inl same
          · exact .inr ⟨old, List.mem_cons_of_mem _ inRest, same⟩
      next =>
        rcases List.mem_cons.1 member with rfl | old
        · exact .inr ⟨first, List.mem_cons_self, rfl⟩
        · exact .inr ⟨entry, List.mem_cons_of_mem _ old, rfl⟩

theorem insertInto_ascending (key : String) (value : α) {entries : List (String × α)}
    (ascending : entries.Pairwise fun a b => a.1 < b.1) :
    (insertInto key value entries).Pairwise fun a b => a.1 < b.1 := by
  induction entries with
  | nil => exact List.pairwise_singleton _ _
  | cons first rest ih =>
    obtain ⟨below, restAscending⟩ := List.pairwise_cons.1 ascending
    unfold insertInto
    split
    next smaller =>
      refine List.pairwise_cons.2 ⟨fun entry member => ?_, ascending⟩
      rcases List.mem_cons.1 member with rfl | inRest
      · exact smaller
      · exact String.lt_trans smaller (below entry inRest)
    next =>
      split
      next larger =>
        refine List.pairwise_cons.2 ⟨fun entry member => ?_, ih restAscending⟩
        rcases key_of_mem_insertInto member with same | ⟨old, inRest, same⟩
        · exact same ▸ larger
        · exact same ▸ below old inRest
      next => exact List.pairwise_cons.2 ⟨below, restAscending⟩

/-- Puts a value under a key, in place of the one that is there. -/
def insert (dictionary : Dictionary α) (key : String) (value : α) : Dictionary α :=
  ⟨insertInto key value dictionary.entries,
    insertInto_ascending key value dictionary.ascending⟩

def find? (dictionary : Dictionary α) (key : String) : Option α :=
  (dictionary.entries.find? (·.1 == key)).map (·.2)

def keys (dictionary : Dictionary α) : List String := dictionary.entries.map (·.1)

/-- Later entries of a list win over earlier ones. -/
def ofList (entries : List (String × α)) : Dictionary α :=
  entries.foldl (fun dictionary (key, value) => dictionary.insert key value) ∅

theorem mapped_ascending {β : Type u} (f : String → α → β) {entries : List (String × α)}
    (ascending : entries.Pairwise fun a b => a.1 < b.1) :
    (entries.map fun (key, value) => (key, f key value)).Pairwise fun a b => a.1 < b.1 :=
  List.pairwise_map.2 ascending

/-- Replaces every value, keeping its key. -/
def map {β : Type u} (f : String → α → β) (dictionary : Dictionary α) : Dictionary β :=
  ⟨dictionary.entries.map fun (key, value) => (key, f key value),
    mapped_ascending f dictionary.ascending⟩

end Dictionary

end GraphSegments
