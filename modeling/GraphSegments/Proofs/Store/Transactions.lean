import GraphSegments.Proofs.Results
import GraphSegments.Proofs.Text.Versions
import GraphSegments.Store.Transactions

/-!
Live transactions: which begin, which are found and which end. No more are live than allowed, each
under an id that no other one ever had, and one that is over stays so.
-/

namespace GraphSegments
open Results

namespace Transactions

variable {α : Type}

theorem idOf_injective : Function.Injective idOf := by
  intro first second same
  have digits : Nat.toDigits 10 first = Nat.toDigits 10 second := by
    have texts := congrArg String.toList same
    simpa [idOf, toString, Nat.repr] using texts
  calc
    first = Nat.ofDigitChars 10 (Nat.toDigits 10 first) 0 := Nat.ofDigitChars_ten_toDigits.symm
    _ = Nat.ofDigitChars 10 (Nat.toDigits 10 second) 0 := by rw [digits]
    _ = second := Nat.ofDigitChars_ten_toDigits

/-- The ids of the live transactions. -/
def ids (transactions : Transactions α) : List String := transactions.live.map (·.id)

/-- Live transactions are no more than allowed, and have different ids that were given before.
Nobody holds a handle. -/
structure IsNumbered (transactions : Transactions α) : Prop where
  few : transactions.size ≤ transactions.limit
  distinct : transactions.ids.Nodup
  numbered : ∀ id ∈ transactions.ids, ∃ number < transactions.created, id = idOf number
  free : transactions.held = []

/-- Some live transactions have ended, and nothing else has changed about them but their work. -/
structure Sheds (before after : Transactions α) : Prop where
  limit : after.limit = before.limit
  held : after.held = before.held
  created : after.created = before.created
  fewer : after.ids.Sublist before.ids

/-- What one step makes of live transactions: some of them end, or one more begins. -/
inductive Follows (before after : Transactions α) : Prop
  | ending (sheds : before.Sheds after)
  | beginning (work : α) (begun : before.create work = .ok (idOf before.created, after))

variable {transactions after : Transactions α} {id : String} {work : α}

theorem Sheds.refl (transactions : Transactions α) : transactions.Sheds transactions :=
  ⟨rfl, rfl, rfl, .refl _⟩

/-- Where there is no transaction, none can end. -/
theorem Sheds.eq_empty {limit : Nat} (sheds : (empty limit).Sheds after) : after = empty limit := by
  obtain ⟨bound, created, live, handles⟩ := after
  obtain ⟨limit, held, number, fewer⟩ := sheds
  obtain rfl := List.map_eq_nil_iff.1 (List.sublist_nil.1 fewer)
  dsimp only at limit held number
  rw [limit, held, number]
  rfl

theorem ids_set (transactions : Transactions α) (id : String) (work : α) :
    (transactions.set id work).ids = transactions.ids := by
  simp only [ids, set, List.map_map]
  apply List.map_congr_left
  intro known _
  by_cases own : known.id = id <;> simp [own]

theorem ids_remove (transactions : Transactions α) (id : String) :
    (transactions.remove id).ids = transactions.ids.filter (· != id) := by
  simp only [ids, remove, List.filter_map]
  rfl

/-- A transaction begins exactly if there is room for it. -/
theorem create_of_lt (room : transactions.size < transactions.limit) (work : α) :
    transactions.create work = .ok (idOf transactions.created, { transactions with
      created := transactions.created + 1
      live := transactions.live ++ [⟨idOf transactions.created, work⟩] }) :=
  if_neg (Nat.not_le.2 room)

theorem create_of_le (full : transactions.limit ≤ transactions.size) (work : α) :
    transactions.create work = .error (.capacity transactions.limit) :=
  if_pos full

theorem create_eq_of_ok (begun : transactions.create work = .ok (id, after)) :
    transactions.size < transactions.limit ∧ id = idOf transactions.created ∧
      { transactions with
        created := transactions.created + 1
        live := transactions.live ++ [⟨idOf transactions.created, work⟩] } = after := by
  rcases Nat.lt_or_ge transactions.size transactions.limit with room | full
  · rw [create_of_lt room] at begun
    obtain ⟨rfl, rfl⟩ := Prod.mk.inj (Except.ok.inj begun)
    exact ⟨room, rfl, rfl⟩
  · rw [create_of_le full] at begun
    cases begun

theorem get_of_not_mem (gone : id ∉ transactions.ids) :
    transactions.get id = .error (.notFound (.transaction id)) := by
  have none : transactions.live.find? (·.id == id) = none := by
    rw [List.find?_eq_none]
    intro known listed own
    exact gone (List.mem_map.2 ⟨known, listed, beq_iff_eq.1 own⟩)
  rw [get, none]

theorem exists_get (live : id ∈ transactions.ids) : ∃ work, transactions.get id = .ok work := by
  obtain ⟨known, listed, own⟩ := List.mem_map.1 live
  have found : (transactions.live.find? (·.id == id)).isSome = true := by
    rw [List.find?_isSome]
    exact ⟨known, listed, beq_iff_eq.2 own⟩
  obtain ⟨first, found⟩ := Option.isSome_iff_exists.1 found
  exact ⟨first.work, by rw [get, found]⟩

theorem take_of_not_mem (gone : id ∉ transactions.ids) :
    transactions.take id = .error (.notFound (.transaction id)) := by
  rw [take, get_of_not_mem gone]
  rfl

/-- A transaction whose handle nobody holds can be ended. -/
theorem take_of_get (found : transactions.get id = .ok work) (free : id ∉ transactions.held) :
    transactions.take id = .ok (work, transactions.remove id) := by
  rw [take, found, ok_bind, if_neg (by simpa using free)]

theorem isNumbered_empty (limit : Nat) : (empty limit : Transactions α).IsNumbered where
  few := Nat.zero_le limit
  distinct := .nil
  numbered _ listed := absurd listed List.not_mem_nil
  free := rfl

/-- The next id is new. -/
theorem IsNumbered.idOf_created_not_mem (numbered : transactions.IsNumbered) :
    idOf transactions.created ∉ transactions.ids := by
  intro listed
  obtain ⟨number, before, same⟩ := numbered.numbered _ listed
  exact Nat.lt_irrefl _ (idOf_injective same ▸ before)

theorem IsNumbered.follows (numbered : transactions.IsNumbered)
    (step : transactions.Follows after) : after.IsNumbered := by
  cases step with
  | ending sheds =>
    refine ⟨?_, numbered.distinct.sublist sheds.fewer, fun id listed => ?_,
      sheds.held.trans numbered.free⟩
    · have shorter := sheds.fewer.length_le
      simp only [ids, List.length_map] at shorter
      exact sheds.limit ▸ shorter.trans numbered.few
    · rw [sheds.created]
      exact numbered.numbered id (sheds.fewer.subset listed)
  | beginning work begun =>
    obtain ⟨room, -, rfl⟩ := create_eq_of_ok begun
    have longer : ids { transactions with
        created := transactions.created + 1
        live := transactions.live ++ [⟨idOf transactions.created, work⟩] } =
        transactions.ids ++ [idOf transactions.created] := by simp [ids]
    refine ⟨?_, ?_, fun id listed => ?_, numbered.free⟩
    · simpa [size] using Nat.succ_le_of_lt room
    · rw [longer, List.nodup_append]
      refine ⟨numbered.distinct, by simp, fun id live other new same => ?_⟩
      obtain rfl := List.mem_singleton.1 new
      exact numbered.idOf_created_not_mem (same ▸ live)
    · rw [longer, List.mem_append, List.mem_singleton] at listed
      rcases listed with live | rfl
      · obtain ⟨number, before, same⟩ := numbered.numbered id live
        exact ⟨number, Nat.lt_succ_of_lt before, same⟩
      · exact ⟨_, Nat.lt_succ_self _, rfl⟩

/-- A transaction that was live once and is so no longer. -/
def IsOver (transactions : Transactions α) (id : String) : Prop :=
  id ∉ transactions.ids ∧ ∃ number < transactions.created, id = idOf number

/-- What is over stays so. -/
theorem IsOver.follows (past : transactions.IsOver id) (step : transactions.Follows after) :
    after.IsOver id := by
  obtain ⟨gone, number, before, rfl⟩ := past
  cases step with
  | ending sheds =>
    exact ⟨fun live => gone (sheds.fewer.subset live), number, sheds.created ▸ before, rfl⟩
  | beginning work begun =>
    obtain ⟨-, -, rfl⟩ := create_eq_of_ok begun
    refine ⟨fun live => ?_, number, Nat.lt_succ_of_lt before, rfl⟩
    simp only [ids, List.map_append, List.map_cons, List.map_nil, List.mem_append,
      List.mem_singleton] at live
    rcases live with live | new
    · exact gone live
    · exact Nat.lt_irrefl _ (idOf_injective new ▸ before)

theorem Follows.limit (step : transactions.Follows after) : after.limit = transactions.limit := by
  cases step with
  | ending sheds => exact sheds.limit
  | beginning work begun =>
    obtain ⟨-, -, rfl⟩ := create_eq_of_ok begun
    rfl

theorem sheds_set (transactions : Transactions α) (id : String) (work : α) :
    transactions.Sheds (transactions.set id work) :=
  ⟨rfl, rfl, rfl, ids_set transactions id work ▸ .refl _⟩

theorem sheds_remove (transactions : Transactions α) (id : String) :
    transactions.Sheds (transactions.remove id) :=
  ⟨rfl, rfl, rfl, ids_remove transactions id ▸ List.filter_sublist⟩

theorem sheds_close (transactions : Transactions α) : transactions.Sheds transactions.close :=
  ⟨rfl, rfl, rfl, List.nil_sublist _⟩

end Transactions

end GraphSegments
