import GraphSegments.Proofs.Store.Holdings
import GraphSegments.Proofs.Store.Lifetimes

/-!
Calls in a transaction. They answer what they would answer directly, while all others see the
database as it was when the transaction began. Committing makes everybody see what direct calls
would have left behind, and giving up leaves nothing of them behind.
-/

namespace GraphSegments
open Results

/-- A call that saves objects or deletes them. -/
inductive Call where
  | save (target : Segment) (objects : List GraphObject) (pool : List Segment)
  | delete (pool : List Segment) (uris : List String)

/-- What a call answers: the objects that were saved, or how many were deleted. -/
inductive Reply where
  | saved (objects : List GraphObject)
  | deleted (count : Nat)

namespace Store

open Transactions

/-- Makes a call in a transaction, or directly where none is named. -/
def perform (store : Store) (id : Option String) : Call → Except Error Reply × Store
  | .save target objects pool =>
    let (saved, after) := store.save id target objects pool
    (saved.map .saved, after)
  | .delete pool uris =>
    let (count, after) := store.deleteBatch id pool uris
    (count.map .deleted, after)

/-- Makes calls one after the other, whether they succeed or not, and gives all replies. -/
def performAll (store : Store) (id : Option String) :
    List Call → List (Except Error Reply) × Store
  | [] => ([], store)
  | call :: rest =>
    let (reply, next) := store.perform id call
    let (replies, last) := next.performAll id rest
    (reply :: replies, last)

/-- Whether no live transaction has looked at the database. -/
def IsQuiet (store : Store) : Prop :=
  ∀ transaction ∈ store.transactions.live, transaction.work = none

/-- Whether no live transaction has written. -/
def IsUnwritten (store : Store) : Prop :=
  ∀ transaction ∈ store.transactions.live, ∀ work ∈ transaction.work, work.wrote = false

theorem IsQuiet.isUnwritten {store : Store} (quiet : store.IsQuiet) : store.IsUnwritten := by
  intro transaction live work own
  rw [quiet transaction live] at own
  cases own

/-- A store in which one more transaction has begun and done some work. -/
def hosting (store : Store) (id : String) (work : Option Work) : Store :=
  { store with
    transactions := { store.transactions with
      created := store.transactions.created + 1
      live := store.transactions.live ++ [⟨id, work⟩] } }

/-- A store with other live transactions and another database. -/
def holding (store : Store) (others : Transactions (Option Work)) (database : Database) : Store :=
  ⟨store.scope, database, others⟩

/-- Whether work that is said to have written nothing has left the database alone. -/
def IsCareful (store : Store) (work : Option Work) : Prop :=
  (store.seen work).wrote = false → (store.seen work).database = store.database

section Hosting

variable {store : Store} {id : String} (fresh : id ∉ store.transactions.ids)
  (work : Option Work)

include fresh

theorem id_ne_of_live {transaction : Transaction (Option Work)}
    (live : transaction ∈ store.transactions.live) : transaction.id ≠ id :=
  fun same => fresh (List.mem_map.2 ⟨transaction, live, same⟩)

theorem get_hosting : (store.hosting id work).transactions.get id = .ok work := by
  have others : store.transactions.live.find? (·.id == id) = none := by
    rw [List.find?_eq_none]
    exact fun other live => by simpa using id_ne_of_live fresh live
  simp [Transactions.get, hosting, List.find?_append, others]

theorem leaving_hosting (done : Work) :
    (store.hosting id work).leaving id done = store.hosting id (some done) := by
  have others : (store.transactions.live.map fun known =>
      if known.id = id then ⟨id, some done⟩ else known) = store.transactions.live := by
    refine (List.map_congr_left fun other live => ?_).trans (List.map_id _)
    exact if_neg (id_ne_of_live fresh live)
  simp [leaving, hosting, Transactions.set, others]

theorem remove_hosting :
    (store.hosting id work).transactions.remove id =
      { store.transactions with created := store.transactions.created + 1 } := by
  have others : store.transactions.live.filter (·.id != id) = store.transactions.live := by
    rw [List.filter_eq_self]
    exact fun other live => by simpa using id_ne_of_live fresh live
  simp [hosting, remove, others]

end Hosting

theorem isShared_hosting {store : Store} (quiet : store.IsQuiet) (id : String)
    (work : Option Work) : (store.hosting id work).isShared id = false := by
  simp only [isShared, hosting, List.any_append, List.any_cons, bne_self_eq_false, Bool.false_and,
    List.any_nil, Bool.or_false, List.any_eq_false]
  exact fun other live => by simp [quiet other live]

theorem isLocked_hosting {store : Store} (unwritten : store.IsUnwritten) (id : String)
    (work : Option Work) : (store.hosting id work).isLocked id = false := by
  simp only [isLocked, hosting, List.any_append, List.any_cons, bne_self_eq_false, Bool.false_and,
    List.any_nil, Bool.or_false, List.any_eq_false]
  intro other live locked
  obtain ⟨-, wrote⟩ := Bool.and_eq_true_iff.1 locked
  obtain ⟨work, own, wrote⟩ := (Option.any_eq_true _ _).1 wrote
  exact absurd ((unwritten other live work own).symm.trans wrote) Bool.false_ne_true

theorem commitDirect_of_isQuiet {store : Store} (quiet : store.IsQuiet) (next : Database) :
    store.commitDirect next = .ok { store with database := next } := by
  have unseen : store.transactions.live.any (·.work.isSome) = false := by
    rw [List.any_eq_false]
    exact fun other live => by simp [quiet other live]
  rw [commitDirect, unseen]
  rfl

section Simulation

variable {store : Store} {others : Transactions (Option Work)} {id : String}
  (unwritten : store.IsUnwritten)
  (idle : ∀ transaction ∈ others.live, transaction.work = none)
  (fresh : id ∉ store.transactions.ids)

include unwritten idle fresh

/-- A change gives the same in a transaction as directly, and makes of the work of the transaction
what it makes of the database. -/
theorem exists_change_hosting {α : Type} {change : Change α}
    (tells : ∀ database value next, change database = .ok (value, next, false) → next = database)
    {work : Option Work} (careful : store.IsCareful work) :
    ∃ answer done, (store.hosting id work).change (some id) change =
        (answer, store.hosting id done) ∧
      (store.holding others (store.seen work).database).change none change =
        (answer, store.holding others (store.seen done).database) ∧ store.IsCareful done := by
  have live := get_hosting fresh work
  let plain := store.holding others (store.seen work).database
  rcases made : change (store.seen work).database with error | ⟨value, next, wrote⟩
  · have inside : (store.hosting id work).within id change =
        (.error error, store.hosting id (some (store.seen work))) :=
      (within_of_error live made).trans (congrArg (Prod.mk _) (leaving_hosting fresh work _))
    have direct : plain.directly change = (.error error, plain) := directly_of_error made
    exact ⟨_, _, inside, direct, careful⟩
  · have inside : (store.hosting id work).within id change =
        (.ok value, store.hosting id (some ⟨next, (store.seen work).wrote || wrote⟩)) :=
      (within_of_ok live made (isLocked_hosting unwritten id work)).trans
        (congrArg (Prod.mk _) (leaving_hosting fresh work _))
    cases wrote with
    | true =>
      have quiet : plain.IsQuiet := idle
      have direct : plain.directly change = (.ok value, { plain with database := next }) :=
        directly_of_commit made (commitDirect_of_isQuiet quiet next)
      exact ⟨_, _, inside, direct, fun nothing => by simp [seen] at nothing⟩
    | false =>
      have direct : plain.directly change = (.ok value, plain) := directly_of_unwritten made
      obtain rfl := tells _ _ _ made
      exact ⟨_, _, inside, direct, fun nothing => careful (by simpa [seen] using nothing)⟩

theorem exists_perform_hosting (call : Call) {work : Option Work}
    (careful : store.IsCareful work) :
    ∃ reply done, (store.hosting id work).perform (some id) call =
        (reply, store.hosting id done) ∧
      (store.holding others (store.seen work).database).perform none call =
        (reply, store.holding others (store.seen done).database) ∧ store.IsCareful done := by
  cases call with
  | save target objects pool =>
    by_cases nothing : objects.isEmpty = true
    · refine ⟨.ok (.saved objects), work, ?_, ?_, careful⟩ <;>
        simp [perform, save, nothing, Except.map]
    · have writes (database : Database) (value : List GraphObject) (next : Database)
          (ran : (do
            let next ← store.scope.save database target objects pool
            return (objects, next, true)) = Except.ok (value, next, false)) : next = database := by
        obtain ⟨_, -, same⟩ := bind_eq_ok.1 ran
        cases same
      obtain ⟨answer, done, inside, direct, kept⟩ :=
        exists_change_hosting unwritten idle fresh writes careful
      refine ⟨answer.map .saved, done, ?_, ?_, kept⟩ <;>
        simp only [perform, save, nothing, if_false, Bool.false_eq_true]
      · exact congrArg (fun result => (result.1.map Reply.saved, result.2)) inside
      · exact congrArg (fun result => (result.1.map Reply.saved, result.2)) direct
  | delete pool uris =>
    by_cases nothing : uris.isEmpty = true
    · refine ⟨.ok (.deleted 0), work, ?_, ?_, careful⟩ <;>
        simp [perform, deleteBatch, nothing, Except.map]
    · have writes (database : Database) (value : Nat) (next : Database)
          (ran : (do
            let deleted ← store.scope.deleteBatch database pool uris
            return (deleted.1, deleted.2, deleted.1 != 0)) = Except.ok (value, next, false)) :
          next = database := by
        obtain ⟨⟨count, left⟩, deleted, same⟩ := bind_eq_ok.1 ran
        obtain ⟨rfl, rfl, none⟩ : count = value ∧ left = next ∧ count = 0 := by
          simpa using Except.ok.inj same
        obtain ⟨count', left', deleted', unchanged, -⟩ :=
          StoreScope.exists_deleteFrom (store.scope.exists_recordsOf_of_poolTables pool) uris
        obtain ⟨rfl, rfl⟩ := Prod.mk.inj (Except.ok.inj (deleted'.symm.trans deleted))
        exact unchanged none
      obtain ⟨answer, done, inside, direct, kept⟩ :=
        exists_change_hosting unwritten idle fresh writes careful
      refine ⟨answer.map .deleted, done, ?_, ?_, kept⟩ <;>
        simp only [perform, deleteBatch, nothing, if_false, Bool.false_eq_true]
      · exact congrArg (fun result => (result.1.map Reply.deleted, result.2)) inside
      · exact congrArg (fun result => (result.1.map Reply.deleted, result.2)) direct

/-- Calls in a transaction are answered as they are directly, and do to the work of the transaction
what they do to the database. -/
theorem exists_performAll_hosting (calls : List Call) {work : Option Work}
    (careful : store.IsCareful work) :
    ∃ replies done, (store.hosting id work).performAll (some id) calls =
        (replies, store.hosting id done) ∧
      (store.holding others (store.seen work).database).performAll none calls =
        (replies, store.holding others (store.seen done).database) ∧ store.IsCareful done := by
  induction calls generalizing work with
  | nil => exact ⟨[], work, rfl, rfl, careful⟩
  | cons call rest ih =>
    obtain ⟨reply, next, inside, direct, kept⟩ :=
      exists_perform_hosting unwritten idle fresh call careful
    obtain ⟨replies, done, insideAll, directAll, last⟩ := ih kept
    exact ⟨reply :: replies, done, by simp only [performAll, inside, insideAll],
      by simp only [performAll, direct, directAll], last⟩

end Simulation

section Ending

variable {store : Store} {id : String} (fresh : id ∉ store.transactions.ids)
  (free : id ∉ store.transactions.held)
include fresh free

/-- What careful work has left behind is what everybody sees once it is committed. -/
theorem commitTransaction_hosting (quiet : store.IsQuiet) {work : Option Work}
    (careful : store.IsCareful work) :
    (store.hosting id work).commitTransaction id =
      (.ok (), { store with
        database := (store.seen work).database
        transactions := { store.transactions with
          created := store.transactions.created + 1 } }) := by
  have hosted : id ∉ (store.hosting id work).transactions.held := free
  rw [commitTransaction, take_of_get (get_hosting fresh work) hosted, remove_hosting fresh work]
  rcases work with _ | ⟨next, _ | _⟩
  · rfl
  · obtain rfl : next = store.database := careful rfl
    rfl
  · have shared := isShared_hosting quiet id (some ⟨next, true⟩)
    simp only [shared, Bool.false_eq_true, if_false]
    rfl

theorem rollbackTransaction_hosting (work : Option Work) :
    (store.hosting id work).rollbackTransaction id =
      (.ok (), { store with
        transactions := { store.transactions with
          created := store.transactions.created + 1 } }) := by
  have hosted : id ∉ (store.hosting id work).transactions.held := free
  rw [rollbackTransaction, take_of_get (get_hosting fresh work) hosted, remove_hosting fresh work]
  rfl

end Ending

/-- A store that was opened has no live transactions. -/
theorem transactions_of_openOn {config : Configuration} {registry : Registry}
    {database prepared : Database} {store : Store}
    (opened : openOn config registry database = (.ok store, prepared)) :
    store.transactions = .empty config.transactionLimit := by
  unfold openOn at opened
  split at opened
  next => cases opened
  next =>
    obtain ⟨made, -⟩ := Prod.mk.inj opened
    obtain ⟨_, -, rfl⟩ := map_eq_ok.1 made
    rfl

/-- A transaction that begins is new, and has done nothing. -/
theorem hosting_of_createTransaction {store begun : Store} {id : String}
    (numbered : store.transactions.IsNumbered)
    (begins : store.createTransaction = (.ok id, begun)) :
    id ∉ store.transactions.ids ∧ begun = store.hosting id none := by
  rcases Nat.lt_or_ge store.transactions.size store.transactions.limit with room | full
  · rw [createTransaction_of_lt room] at begins
    obtain ⟨named, rfl⟩ := Prod.mk.inj begins
    obtain rfl := Except.ok.inj named
    exact ⟨numbered.idOf_created_not_mem, rfl⟩
  · rw [createTransaction_of_le full] at begins
    cases begins

end Store

end GraphSegments
