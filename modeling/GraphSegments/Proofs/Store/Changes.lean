import GraphSegments.Proofs.Results
import GraphSegments.Store

/-!
What a change does to a store. Outside of transactions it happens as a whole or not at all; within a
live transaction it leaves behind what the transaction has seen, and nothing else.
-/

namespace GraphSegments
open Results

namespace Transactions

variable {α : Type} {transactions left : Transactions α} {id : String} {work : α}

theorem exists_of_get (found : transactions.get id = .ok work) :
    ∃ transaction ∈ transactions.live, transaction.work = work := by
  unfold get at found
  split at found
  next transaction there =>
    exact ⟨transaction, List.mem_of_find?_eq_some there, Except.ok.inj found⟩
  next => cases found

theorem take_eq_ok (taken : transactions.take id = .ok (work, left)) :
    transactions.get id = .ok work ∧ transactions.remove id = left := by
  obtain ⟨own, found, taken⟩ := bind_eq_ok.1 taken
  split at taken
  next => cases taken
  next =>
    obtain ⟨rfl, rfl⟩ := Prod.mk.inj (Except.ok.inj taken)
    exact ⟨found, rfl⟩

/-- The work of a live transaction is what it was last set to. -/
theorem get_set (live : transactions.get id = .ok work) (other : α) :
    (transactions.set id other).get id = .ok other := by
  unfold get at live ⊢
  cases found : transactions.live.find? (·.id == id) with
  | none =>
    rw [found] at live
    cases live
  | some known =>
    have own : known.id = id := by simpa using List.find?_some found
    have kept : ((fun other : Transaction α => other.id == id) ∘ fun known =>
        if known.id = id then ⟨id, other⟩ else known) = fun known => known.id == id := by
      funext known
      by_cases same : known.id = id <;> simp [same]
    have there : (transactions.set id other).live.find? (·.id == id) = some ⟨id, other⟩ := by
      dsimp only [set]
      rw [List.find?_map, kept, found, Option.map_some, if_pos own]
    rw [there]

end Transactions

namespace Store

variable {α : Type}

/-- What a transaction sees: its own work, or the database as it is when it first looks at it. -/
def seen (store : Store) (work : Option Work) : Work := work.getD ⟨store.database, false⟩

/-- A store in which a live transaction has done some work. -/
def leaving (store : Store) (id : String) (work : Work) : Store :=
  { store with transactions := store.transactions.set id (some work) }

/-- A change outside of transactions fails, does not write, or replaces the database. -/
theorem directly_cases (store : Store) (change : Change α) :
    (∃ error, store.directly change = (.error error, store)) ∨
      ∃ value next wrote, change store.database = .ok (value, next, wrote) ∧
        store.directly change =
          (.ok value, if wrote then { store with database := next } else store) := by
  unfold directly
  split
  next => exact .inl ⟨_, rfl⟩
  next value next wrote done =>
    cases wrote with
    | false => exact .inr ⟨value, next, false, done, rfl⟩
    | true =>
      simp only [Bool.not_true, Bool.false_eq_true, if_false, commitDirect]
      split
      next refused =>
        split at refused
        next => exact .inl ⟨_, rfl⟩
        next => cases refused
      next changed committed =>
        split at committed
        next => cases committed
        next =>
          obtain rfl := Except.ok.inj committed
          exact .inr ⟨value, next, true, done, rfl⟩

theorem directly_of_error {store : Store} {change : Change α} {error : Error}
    (failed : change store.database = .error error) :
    store.directly change = (.error error, store) := by
  rw [directly, failed]

theorem directly_of_unwritten {store : Store} {change : Change α} {value : α} {next : Database}
    (made : change store.database = .ok (value, next, false)) :
    store.directly change = (.ok value, store) := by
  rw [directly, made]
  rfl

theorem directly_of_commit {store kept : Store} {change : Change α} {value : α} {next : Database}
    (made : change store.database = .ok (value, next, true))
    (committed : store.commitDirect next = .ok kept) :
    store.directly change = (.ok value, kept) := by
  rw [directly, made]
  simp only [committed, Bool.not_true, Bool.false_eq_true, if_false]

/-- The changes of a step are kept as they are, or not at all. -/
theorem keep_cases (store : Store) (step : Except Error α × Database) :
    (∃ error, store.keep step = (.error error, store)) ∨
      store.keep step = (step.1, { store with database := step.2 }) := by
  unfold keep commitDirect
  split
  next next committed =>
    split at committed
    next => cases committed
    next =>
      obtain rfl := Except.ok.inj committed
      exact .inr rfl
  next => exact .inl ⟨_, rfl⟩

theorem addSegment_cases (store : Store) (segment : Segment) :
    (store.addSegment segment).2 = store ∨ (store.addSegment segment).2 =
      { store with database := (store.scope.addSegment store.database segment).2 } := by
  unfold addSegment
  split
  next => exact .inl rfl
  next =>
    rcases store.keep_cases (store.scope.addSegment store.database segment) with
      ⟨error, failed⟩ | kept
    · exact .inl (congrArg Prod.snd failed)
    · exact .inr (congrArg Prod.snd kept)

theorem deleteSegment_cases (store : Store) (segment : Segment) (withData : Bool) :
    (store.deleteSegment segment withData).2 = store ∨
      (store.deleteSegment segment withData).2 =
        { store with database := (store.scope.deleteSegment store.database segment true).2 } := by
  unfold deleteSegment
  split
  next => exact .inl rfl
  next =>
    split
    next =>
      rcases store.keep_cases (store.scope.deleteSegment store.database segment true) with
        ⟨error, failed⟩ | kept
      · exact .inl (congrArg Prod.snd failed)
      · exact .inr (congrArg Prod.snd kept)
    next => exact .inl rfl

/-- A change in a transaction that is not live fails. In a live one it leaves behind what the
transaction has seen before, if it fails, or the database that it gives. -/
theorem within_cases (store : Store) (id : String) (change : Change α) :
    (∃ error, store.within id change = (.error error, store)) ∨
      ∃ work, store.transactions.get id = .ok work ∧
        ((∃ error, store.within id change =
            (.error error, store.leaving id (store.seen work))) ∨
          ∃ value next wrote, change (store.seen work).database = .ok (value, next, wrote) ∧
            store.within id change =
              (.ok value, store.leaving id ⟨next, (store.seen work).wrote || wrote⟩)) := by
  unfold within
  split
  next => exact .inl ⟨_, rfl⟩
  next work live =>
    refine .inr ⟨work, live, ?_⟩
    dsimp only
    split
    next => exact .inl ⟨_, rfl⟩
    next value next wrote done =>
      split
      next => exact .inl ⟨_, rfl⟩
      next => exact .inr ⟨value, next, wrote, done, rfl⟩

/-- A change in a live transaction that fails leaves behind what the transaction has seen before. -/
theorem within_of_error {store : Store} {id : String} {work : Option Work} {change : Change α}
    {error : Error} (live : store.transactions.get id = .ok work)
    (failed : change (store.seen work).database = .error error) :
    store.within id change = (.error error, store.leaving id (store.seen work)) := by
  unfold seen at failed
  rw [within, live]
  dsimp only
  rw [failed]
  rfl

/-- A change in a live transaction leaves behind the database that it gives, unless it writes while
another transaction has written. -/
theorem within_of_ok {store : Store} {id : String} {work : Option Work} {change : Change α}
    {value : α} {next : Database} {wrote : Bool} (live : store.transactions.get id = .ok work)
    (made : change (store.seen work).database = .ok (value, next, wrote))
    (free : store.isLocked id = false) :
    store.within id change =
      (.ok value, store.leaving id ⟨next, (store.seen work).wrote || wrote⟩) := by
  unfold seen at made
  rw [within, live]
  dsimp only
  rw [made]
  simp only [free, Bool.and_false, Bool.false_eq_true, if_false]
  rfl

/-- A transaction that has written leaves behind the database as it has seen it last. -/
theorem commitTransaction_eq_ok {store settled : Store} {id : String} {next : Database}
    (live : store.transactions.get id = .ok (some ⟨next, true⟩))
    (committed : store.commitTransaction id = (.ok (), settled)) :
    settled.scope = store.scope ∧ settled.database = next := by
  unfold commitTransaction at committed
  split at committed
  next => cases committed
  next work left taken =>
    obtain rfl := Except.ok.inj ((Transactions.take_eq_ok taken).1.symm.trans live)
    dsimp only at committed
    split at committed
    next => cases committed
    next =>
      obtain rfl := (Prod.mk.inj committed).2
      exact ⟨rfl, rfl⟩

/-- The store once the transaction is committed in which something was done, if it was done in
one. -/
def settle (store : Store) : Option String → Except Error Unit × Store
  | none => (.ok (), store)
  | some id => store.commitTransaction id

/-- A change that always writes is made to a database, and its result is what everybody sees once
it is settled. -/
theorem exists_change_of_settle {store changed settled : Store} {id : Option String}
    {change : Change α} {value : α}
    (writes : ∀ database value next wrote,
      change database = .ok (value, next, wrote) → wrote = true)
    (ran : store.change id change = (.ok value, changed))
    (settles : changed.settle id = (.ok (), settled)) :
    settled.scope = store.scope ∧
      ∃ database, change database = .ok (value, settled.database, true) := by
  cases id with
  | none =>
    obtain rfl := (Prod.mk.inj settles).2
    rw [Store.change] at ran
    rcases store.directly_cases change with ⟨error, failed⟩ | ⟨own, next, wrote, done, made⟩
    · cases failed.symm.trans ran
    · obtain rfl := writes _ _ _ _ done
      obtain ⟨same, rfl⟩ := Prod.mk.inj (made.symm.trans ran)
      obtain rfl := Except.ok.inj same
      exact ⟨rfl, _, done⟩
  | some id =>
    rw [Store.change] at ran
    rcases store.within_cases id change with
      ⟨error, failed⟩ | ⟨work, live, ⟨error, failed⟩ | ⟨own, next, wrote, done, made⟩⟩
    · cases failed.symm.trans ran
    · cases failed.symm.trans ran
    · obtain rfl := writes _ _ _ _ done
      obtain ⟨same, rfl⟩ := Prod.mk.inj (made.symm.trans ran)
      obtain rfl := Except.ok.inj same
      rw [Bool.or_true] at settles
      obtain ⟨scope, rfl⟩ := commitTransaction_eq_ok (Transactions.get_set live _) settles
      exact ⟨scope, _, done⟩

end Store

end GraphSegments
