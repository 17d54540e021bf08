import GraphSegments.Proofs.Store.Consistency
import GraphSegments.Proofs.Store.Transactions

/-!
The lives of transactions. However a store is used, it has no more live transactions than its limit
allows, and each ends once: it is committed, given up, or closed together with all others.
-/

namespace GraphSegments
open Results

namespace Store

open Transactions

variable {store : Store} {id : String}

/-- What a step leaves of a store: it is used as before, and live transactions end at most. -/
structure Keeps (store after : Store) : Prop where
  scope : after.scope = store.scope
  sheds : store.transactions.Sheds after.transactions

theorem Keeps.refl (store : Store) : store.Keeps store := ⟨rfl, .refl _⟩

theorem keeps_change {α : Type} (store : Store) (id : Option String) (change : Change α) :
    store.Keeps (store.change id change).2 := by
  cases id with
  | none =>
    rw [Store.change]
    rcases store.directly_cases change with ⟨error, made⟩ | ⟨value, next, wrote, -, made⟩
    · rw [made]
      exact .refl store
    · rw [made]
      cases wrote <;> exact ⟨rfl, .refl _⟩
  | some id =>
    rw [Store.change]
    rcases store.within_cases id change with
      ⟨error, made⟩ | ⟨work, -, ⟨error, made⟩ | ⟨value, next, wrote, -, made⟩⟩
    · rw [made]
      exact .refl store
    · rw [made]
      exact ⟨rfl, sheds_set _ id _⟩
    · rw [made]
      exact ⟨rfl, sheds_set _ id _⟩

/-- Operations end transactions at most, unless they begin one. -/
theorem keeps_after (store : Store) {operation : Operation}
    (other : operation ≠ .createTransaction) : store.Keeps (store.after operation) := by
  cases operation with
  | save transaction target objects pool =>
    simp only [Store.after, Store.save]
    split
    next => exact .refl store
    next => exact store.keeps_change transaction _
  | deleteBatch transaction pool uris =>
    simp only [Store.after, Store.deleteBatch]
    split
    next => exact .refl store
    next => exact store.keeps_change transaction _
  | deleteAll segment => exact store.keeps_change none _
  | addSegment segment =>
    rw [Store.after]
    rcases store.addSegment_cases segment with same | added
    · rw [same]
      exact .refl store
    · rw [added]
      exact ⟨rfl, .refl _⟩
  | deleteSegment segment withData =>
    rw [Store.after]
    rcases store.deleteSegment_cases segment withData with same | deleted
    · rw [same]
      exact .refl store
    · rw [deleted]
      exact ⟨rfl, .refl _⟩
  | createTransaction => exact absurd rfl other
  | commitTransaction id =>
    simp only [Store.after, Store.commitTransaction]
    split
    next => exact .refl store
    next work transactions taken =>
      obtain ⟨-, rfl⟩ := take_eq_ok taken
      split
      next => split <;> exact ⟨rfl, sheds_remove _ id⟩
      next => exact ⟨rfl, sheds_remove _ id⟩
  | rollbackTransaction id =>
    simp only [Store.after, Store.rollbackTransaction]
    split
    next => exact .refl store
    next work transactions taken =>
      obtain ⟨-, rfl⟩ := take_eq_ok taken
      exact ⟨rfl, sheds_remove _ id⟩
  | close => exact ⟨rfl, sheds_close _⟩

/-- No operation changes how a store is used. -/
theorem scope_after (store : Store) (operation : Operation) :
    (store.after operation).scope = store.scope := by
  by_cases begins : operation = .createTransaction
  · subst begins
    simp only [Store.after, Store.createTransaction]
    split <;> rfl
  · exact (store.keeps_after begins).scope

theorem scope_afterAll (store : Store) (operations : List Operation) :
    (store.afterAll operations).scope = store.scope := by
  induction operations generalizing store with
  | nil => rfl
  | cons operation rest ih => exact (ih _).trans (store.scope_after operation)

/-- As long as no transaction begins, there is none. -/
theorem transactions_afterAll {limit : Nat} (start : store.transactions = .empty limit)
    {operations : List Operation}
    (others : ∀ operation ∈ operations, operation ≠ .createTransaction) :
    (store.afterAll operations).transactions = .empty limit := by
  induction operations generalizing store with
  | nil => exact start
  | cons operation rest ih =>
    obtain ⟨other, later⟩ := List.forall_mem_cons.1 others
    have sheds := (store.keeps_after other).sheds
    rw [start] at sheds
    exact ih sheds.eq_empty later

/-- A transaction begins where there is room for one more. -/
theorem createTransaction_of_lt (room : store.transactions.size < store.transactions.limit) :
    store.createTransaction = (.ok (idOf store.transactions.created), { store with
      transactions := { store.transactions with
        created := store.transactions.created + 1
        live := store.transactions.live ++ [⟨idOf store.transactions.created, none⟩] } }) := by
  rw [createTransaction, create_of_lt room]

theorem createTransaction_of_le (full : store.transactions.limit ≤ store.transactions.size) :
    store.createTransaction = (.error (.capacity store.transactions.limit), store) := by
  rw [createTransaction, create_of_le full]

/-- One operation begins one transaction at most. -/
theorem follows_after (store : Store) (operation : Operation) :
    store.transactions.Follows (store.after operation).transactions := by
  by_cases begins : operation = .createTransaction
  · subst begins
    rcases Nat.lt_or_ge store.transactions.size store.transactions.limit with room | full
    · exact .beginning none
        ((create_of_lt room none).trans (by rw [Store.after, createTransaction_of_lt room]))
    · rw [Store.after, createTransaction_of_le full]
      exact .ending (.refl _)
  · exact .ending (store.keeps_after begins).sheds

/-- What one step keeps of the live transactions, any number of operations keep. -/
theorem afterAll_of_follows (holds : Transactions (Option Work) → Prop)
    (step : ∀ before after, holds before → before.Follows after → holds after)
    (start : holds store.transactions) (operations : List Operation) :
    holds (store.afterAll operations).transactions := by
  induction operations generalizing store with
  | nil => exact start
  | cons operation rest ih => exact ih (step _ _ start (store.follows_after operation))

theorem isNumbered_afterAll (numbered : store.transactions.IsNumbered)
    (operations : List Operation) : (store.afterAll operations).transactions.IsNumbered :=
  afterAll_of_follows IsNumbered (fun _ _ numbered step => numbered.follows step) numbered
    operations

theorem isOver_afterAll (past : store.transactions.IsOver id) (operations : List Operation) :
    (store.afterAll operations).transactions.IsOver id :=
  afterAll_of_follows (IsOver · id) (fun _ _ past step => past.follows step) past operations

theorem limit_afterAll (store : Store) (operations : List Operation) :
    (store.afterAll operations).transactions.limit = store.transactions.limit :=
  afterAll_of_follows (fun later => later.limit = store.transactions.limit)
    (fun _ _ same step => step.limit.trans same) rfl operations

/-- What is told of each operation in turn. -/
def told (tell : Store → Operation → List String) (store : Store) : List Operation → List String
  | [] => []
  | operation :: rest => tell store operation ++ told tell (store.after operation) rest

/-- The id that an operation gives out. -/
def gives (store : Store) : Operation → List String
  | .createTransaction => store.createTransaction.1.toOption.toList
  | _ => []

/-- The id of the transaction that an operation commits or gives up. -/
def settles (store : Store) : Operation → List String
  | .commitTransaction id => if (store.commitTransaction id).1.isOk then [id] else []
  | .rollbackTransaction id => if (store.rollbackTransaction id).1.isOk then [id] else []
  | _ => []

/-- An operation gives out the next id or none. -/
theorem gives_cases (store : Store) (operation : Operation) :
    (store.gives operation = [] ∧
      (store.after operation).transactions.created = store.transactions.created) ∨
    (store.gives operation = [idOf store.transactions.created] ∧
      (store.after operation).transactions.created = store.transactions.created + 1) := by
  by_cases begins : operation = .createTransaction
  · subst begins
    rcases Nat.lt_or_ge store.transactions.size store.transactions.limit with room | full
    · right
      rw [gives, Store.after, createTransaction_of_lt room]
      exact ⟨rfl, rfl⟩
    · left
      rw [gives, Store.after, createTransaction_of_le full]
      exact ⟨rfl, rfl⟩
  · left
    refine ⟨?_, (store.keeps_after begins).sheds.created⟩
    cases operation <;> first | rfl | exact absurd rfl begins

/-- The ids given out in the course of some operations are numbered one after the other. -/
theorem told_gives (store : Store) (operations : List Operation) :
    ∃ count, (store.afterAll operations).transactions.created = store.transactions.created + count ∧
      store.told gives operations =
        (List.range' store.transactions.created count).map idOf := by
  induction operations generalizing store with
  | nil => exact ⟨0, rfl, rfl⟩
  | cons operation rest ih =>
    obtain ⟨count, last, others⟩ := ih (store.after operation)
    rcases store.gives_cases operation with ⟨none, same⟩ | ⟨one, next⟩
    · exact ⟨count, by rw [← same]; exact last, by rw [told, none, others, same]; rfl⟩
    · refine ⟨count + 1, ?_, ?_⟩
      · rw [afterAll, List.foldl_cons, ← afterAll, last, next]
        omega
      · rw [told, one, others, next, List.range'_succ]
        rfl

/-- Whether the database refuses to keep what a transaction has written, since another one has
looked at it. -/
def refuses (store : Store) (id : String) : Bool :=
  match store.transactions.get id with
  | .ok (some work) => work.wrote && store.isShared id
  | _ => false

theorem commitTransaction_of_not_mem (gone : id ∉ store.transactions.ids) :
    store.commitTransaction id = (.error (.notFound (.transaction id)), store) := by
  rw [commitTransaction, take_of_not_mem gone]

theorem rollbackTransaction_of_not_mem (gone : id ∉ store.transactions.ids) :
    store.rollbackTransaction id = (.error (.notFound (.transaction id)), store) := by
  rw [rollbackTransaction, take_of_not_mem gone]

section Live

variable (live : id ∈ store.transactions.ids) (free : id ∉ store.transactions.held)
include live free

/-- A live transaction is committed unless the database refuses it, and is gone in either case. -/
theorem commitTransaction_of_mem :
    (store.commitTransaction id).1 = (if store.refuses id then .error .storage else .ok ()) ∧
      (store.commitTransaction id).2.transactions = store.transactions.remove id := by
  obtain ⟨work, found⟩ := exists_get live
  simp only [commitTransaction, refuses, take_of_get found free, found]
  rcases work with _ | ⟨next, _ | _⟩
  · exact ⟨rfl, rfl⟩
  · exact ⟨rfl, rfl⟩
  · cases shared : store.isShared id <;> exact ⟨rfl, rfl⟩

theorem rollbackTransaction_of_mem :
    store.rollbackTransaction id =
      (.ok (), { store with transactions := store.transactions.remove id }) := by
  obtain ⟨work, found⟩ := exists_get live
  rw [rollbackTransaction, take_of_get found free]

end Live

theorem not_mem_ids_remove (transactions : Transactions (Option Work)) (id : String) :
    id ∉ (transactions.remove id).ids := by
  rw [ids_remove]
  simp

/-- An operation commits or gives up one transaction at most. That was live before and is not
afterwards. -/
theorem settles_cases (numbered : store.transactions.IsNumbered) (operation : Operation) :
    store.settles operation = [] ∨ ∃ id ∈ store.transactions.ids,
      store.settles operation = [id] ∧ id ∉ (store.after operation).transactions.ids := by
  have free (id : String) : id ∉ store.transactions.held := numbered.free ▸ List.not_mem_nil
  cases operation with
  | commitTransaction id =>
    by_cases live : id ∈ store.transactions.ids
    · rw [settles]
      split
      next =>
        refine .inr ⟨id, live, rfl, ?_⟩
        rw [Store.after, (commitTransaction_of_mem live (free id)).2]
        exact not_mem_ids_remove _ id
      next => exact .inl rfl
    · rw [settles, commitTransaction_of_not_mem live]
      exact .inl rfl
  | rollbackTransaction id =>
    by_cases live : id ∈ store.transactions.ids
    · rw [settles, Store.after, rollbackTransaction_of_mem live (free id)]
      exact .inr ⟨id, live, rfl, not_mem_ids_remove _ id⟩
    · rw [settles, rollbackTransaction_of_not_mem live]
      exact .inl rfl
  | _ => exact .inl rfl

/-- No transaction is committed or given up twice, and none that is over already. -/
theorem told_settles (numbered : store.transactions.IsNumbered) (operations : List Operation) :
    (store.told settles operations).Nodup ∧ ∀ id ∈ store.told settles operations,
      ¬ store.transactions.IsOver id ∧
        ∃ number < (store.afterAll operations).transactions.created, id = idOf number := by
  induction operations generalizing store with
  | nil => exact ⟨.nil, fun _ listed => absurd listed List.not_mem_nil⟩
  | cons operation rest ih =>
    have step := store.follows_after operation
    obtain ⟨distinct, later⟩ := ih (numbered.follows step)
    have others : ∀ id ∈ (store.after operation).told settles rest,
        ¬ store.transactions.IsOver id ∧
          ∃ number < (store.afterAll (operation :: rest)).transactions.created, id = idOf number :=
      fun id listed => ⟨fun past => (later id listed).1 (past.follows step), (later id listed).2⟩
    rcases settles_cases numbered operation with none | ⟨id, live, one, gone⟩
    · rw [told, none]
      exact ⟨distinct, others⟩
    · obtain ⟨number, before, named⟩ := numbered.numbered id live
      obtain ⟨more, created, -⟩ := store.told_gives [operation]
      obtain ⟨count, last, -⟩ := (store.after operation).told_gives rest
      have kept : store.transactions.created ≤ (store.after operation).transactions.created :=
        Nat.le.intro created.symm
      have past : (store.after operation).transactions.IsOver id :=
        ⟨gone, number, Nat.lt_of_lt_of_le before kept, named⟩
      rw [told, one]
      refine ⟨List.nodup_cons.2 ⟨fun again => (later id again).1 past, distinct⟩,
        List.forall_mem_cons.2 ⟨⟨fun ended => ended.1 live, number, ?_, named⟩, others⟩⟩
      exact Nat.lt_of_lt_of_le before (kept.trans (Nat.le.intro last.symm))

/-- Transactions that fit begin one after the other. -/
theorem size_afterAll_create {count : Nat}
    (room : store.transactions.size + count ≤ store.transactions.limit) :
    (store.afterAll (List.replicate count .createTransaction)).transactions.size =
      store.transactions.size + count := by
  induction count generalizing store with
  | zero => rfl
  | succ count ih =>
    have next : (store.after .createTransaction).transactions.size = store.transactions.size + 1 ∧
        (store.after .createTransaction).transactions.limit = store.transactions.limit := by
      rw [Store.after, createTransaction_of_lt (by omega)]
      exact ⟨by simp [size], rfl⟩
    rw [List.replicate_succ, afterAll, List.foldl_cons, ← afterAll, ih (by omega), next.1]
    omega

end Store

end GraphSegments
