import GraphSegments.Proofs.Database.Saving
import GraphSegments.Proofs.Search.Questions
import GraphSegments.Proofs.Store.Changes

/-!
Saving replaces what a segment holds of the objects saved, and nothing else, or it changes nothing
that anybody sees. Whatever can go wrong does so before the first statement that writes.
-/

namespace GraphSegments
open Results

namespace Database

/-- A database has become another one in which a table holds rows instead of its records of some
objects. -/
structure Replaces (before after : Database) (table : String) (uris : List String)
    (rows : List Row) : Prop where
  target : ∃ records, before.recordsOf table = .ok records ∧
    after.recordsOf table = .ok (Record.without uris records ++ rows.map Record.ofRow)
  others : ∀ other, sameName other table = false → after.recordsOf other = before.recordsOf other
  names : after.tableNames = before.tableNames
  rest : { after with tables := before.tables } = before

variable {database next : Database} {table other : String}

theorem recordsOf_setRecords_of_ne (database : Database) (apart : sameName other table = false)
    (records : List Record) :
    (database.setRecords table records).recordsOf other = database.recordsOf other := by
  unfold recordsOf records? setRecords
  rw [List.find?_map]
  dsimp only [Function.comp_def]
  cases found : database.tables.find? fun known => sameName known.1 other with
  | none => rfl
  | some known =>
    have named : Text.lowerAscii known.1 = Text.lowerAscii other := by
      simpa [sameName] using List.find?_some found
    have kept : sameName known.1 table = false := by rwa [sameName, named]
    simp [kept]

theorem replaces_setRecords {records : List Record}
    (present : database.recordsOf table = .ok records) (uris : List String) (rows : List Row) :
    database.Replaces
      (database.setRecords table (Record.without uris records ++ rows.map Record.ofRow))
      table uris rows where
  target := ⟨records, present, recordsOf_setRecords present _⟩
  others _ apart := recordsOf_setRecords_of_ne database apart _
  names := by simp [tableNames, setRecords]
  rest := rfl

theorem execInTurn_cons {statement : Statement} {middle : Database}
    (ran : database.exec statement = .ok middle) (rest : List Statement) :
    database.execInTurn (statement :: rest) = middle.execInTurn rest := by
  cases statement with
  | createIndex table column =>
    rw [exec] at ran
    rw [execInTurn]
    generalize database.createIndex table column = step at ran ⊢
    obtain ⟨outcome, indexed⟩ := step
    obtain ⟨_, rfl, rfl⟩ := map_eq_ok.1 ran
    rfl
  | _ => simp only [execInTurn, ran]

/-- Statements that all go through do so one after the other. -/
theorem execInTurn_of_execAll {statements : List Statement}
    (ran : database.execAll statements = .ok next) :
    database.execInTurn statements = (.ok (), next) := by
  induction statements generalizing database with
  | nil => rw [execInTurn, Except.ok.inj ran]
  | cons statement rest ih =>
    rw [execAll, List.foldlM_cons] at ran
    obtain ⟨middle, first, ran⟩ := bind_eq_ok.1 ran
    rw [execInTurn_cons first, ih ran]

end Database

namespace StoreScope

variable {scope : StoreScope} {database : Database} {target : Segment}

theorem exists_recordsOf_of_hasSegment (there : scope.hasSegment database target = true) :
    ∃ records, database.recordsOf (scope.table target) = .ok records := by
  rw [hasSegment, segmentTables, TableName.segments, List.contains_iff_mem, List.mem_mergeSort]
    at there
  obtain ⟨known, listed, named⟩ := List.mem_map.1 (List.mem_filter.1 there).1
  have found : (database.tables.find? fun known =>
      Database.sameName known.1 (scope.table target)).isSome = true := by
    rw [List.find?_isSome]
    exact ⟨known, listed, by simp [Database.sameName, named]⟩
  obtain ⟨first, found⟩ := Option.isSome_iff_exists.1 found
  exact ⟨first.2, by rw [Database.recordsOf, Database.records?, found]; rfl⟩

/-- Saves objects in a segment, one statement after the other until one fails. What the ones before
it did stays. -/
def saveInTurn (scope : StoreScope) (database : Database) (target : Segment)
    (objects : List GraphObject) (pool : List Segment) : Except Error Unit × Database :=
  match scope.saveStatements database target objects pool with
  | .error error => (.error error, database)
  | .ok statements => database.execInTurn statements

/-- Once there are statements to save objects by, they go through. -/
theorem exists_execAll_of_saveStatements {objects : List GraphObject} {pool : List Segment}
    {statements : List Statement}
    (made : scope.saveStatements database target objects pool = .ok statements) :
    ∃ next, database.execAll statements = .ok next := by
  obtain ⟨table, required, made⟩ := bind_eq_ok.1 made
  obtain ⟨_, -, made⟩ := bind_eq_ok.1 made
  obtain ⟨rows, written, made⟩ := bind_eq_ok.1 made
  obtain rfl := Except.ok.inj made
  unfold requireTable at required
  split at required
  next there =>
    obtain rfl := Except.ok.inj required
    cases objects with
    | nil =>
      obtain rfl := Except.ok.inj written
      exact ⟨database, rfl⟩
    | cons object rest =>
      obtain ⟨records, present⟩ := exists_recordsOf_of_hasSegment there
      have named : (object :: rest).map (·.uri) ≠ [] := List.cons_ne_nil _ _
      rw [Database.execAll_append, Database.execAll_deleteUris present named, ok_bind,
        Database.execAll_insertAll present]
      exact ⟨_, rfl⟩
  next => cases required

/-- Saving one statement after the other is saving as a whole: if it fails, then before the first
statement. -/
theorem saveInTurn_eq (scope : StoreScope) (database : Database) (target : Segment)
    (objects : List GraphObject) (pool : List Segment) :
    scope.saveInTurn database target objects pool =
      match scope.save database target objects pool with
      | .error error => (.error error, database)
      | .ok next => (.ok (), next) := by
  unfold saveInTurn save
  cases made : scope.saveStatements database target objects pool with
  | error error => rfl
  | ok statements =>
    obtain ⟨next, ran⟩ := exists_execAll_of_saveStatements made
    rw [ok_bind, ran]
    exact Database.execInTurn_of_execAll ran

theorem replaces_of_save {objects : List GraphObject} {pool : List Segment} {next : Database}
    (some : objects ≠ []) (saved : scope.save database target objects pool = .ok next) :
    ∃ rows, GraphObject.allToRows scope.registry objects = .ok rows ∧
      database.Replaces next (scope.table target) (objects.map (·.uri)) rows := by
  obtain ⟨records, rows, -, present, written, rfl⟩ := save_eq_ok some saved
  exact ⟨rows, written, Database.replaces_setRecords present _ rows⟩

end StoreScope

/-- Work that is done in one transaction is not done in another. -/
theorem Transactions.get_set_of_ne {α : Type} (transactions : Transactions α) {id other : String}
    (apart : other ≠ id) (work : α) :
    (transactions.set id work).get other = transactions.get other := by
  have kept : ((fun known : Transaction α => known.id == other) ∘ fun known =>
      if known.id = id then ⟨id, work⟩ else known) = fun known => known.id == other := by
    funext known
    by_cases same : known.id = id <;> simp [same]
  unfold get set
  rw [List.find?_map, kept]
  cases found : transactions.live.find? (·.id == other) with
  | none => rfl
  | some known =>
    have own : known.id = other := by simpa using List.find?_some found
    simp [own, apart]

namespace Store

/-- The database as a transaction sees it, or as everybody else does. -/
def view (store : Store) : Option String → Except Error Database
  | none => .ok store.database
  | some id => (store.transactions.get id).map fun work => (store.seen work).database

theorem view_leaving {store : Store} {id : String} {work : Option Work}
    (live : store.transactions.get id = .ok work) (done : Work) :
    (store.leaving id done).view (some id) = .ok done.database := by
  rw [view, leaving, Transactions.get_set live]
  rfl

theorem view_leaving_of_ne (store : Store) {id : String} {other : Option String}
    (apart : other ≠ some id) (done : Work) :
    (store.leaving id done).view other = store.view other := by
  cases other with
  | none => rfl
  | some other =>
    rw [view, leaving, Transactions.get_set_of_ne _ (fun same => apart (congrArg some same))]
    rfl

variable {α : Type} {store after : Store} {id : Option String} {change : Change α}

/-- A change that fails changes nothing that anybody sees. -/
theorem change_eq_error {error : Error} (failed : store.change id change = (.error error, after)) :
    after.scope = store.scope ∧ ∀ other, after.view other = store.view other := by
  cases id with
  | none =>
    rcases store.directly_cases change with ⟨_, same⟩ | ⟨_, _, _, -, same⟩
    · obtain rfl := (Prod.mk.inj (same.symm.trans failed)).2
      exact ⟨rfl, fun _ => rfl⟩
    · cases same.symm.trans failed
  | some id =>
    rcases store.within_cases id change with
      ⟨_, same⟩ | ⟨work, live, ⟨_, same⟩ | ⟨_, _, _, -, same⟩⟩
    · obtain rfl := (Prod.mk.inj (same.symm.trans failed)).2
      exact ⟨rfl, fun _ => rfl⟩
    · obtain rfl := (Prod.mk.inj (same.symm.trans failed)).2
      refine ⟨rfl, fun other => ?_⟩
      by_cases own : other = some id
      · rw [own, view_leaving live, view, live]
        rfl
      · exact view_leaving_of_ne store own _
    · cases same.symm.trans failed

/-- A change that writes is made to the database that is seen where it is made. Outside of
transactions all see what it does, in a transaction nobody else. -/
theorem change_eq_ok {value : α}
    (writes : ∀ database value next wrote,
      change database = .ok (value, next, wrote) → wrote = true)
    (changed : store.change id change = (.ok value, after)) :
    after.scope = store.scope ∧ ∃ before next, store.view id = .ok before ∧
      change before = .ok (value, next, true) ∧ after.view id = .ok next ∧
      (id ≠ none → ∀ other, other ≠ id → after.view other = store.view other) := by
  cases id with
  | none =>
    rcases store.directly_cases change with ⟨_, same⟩ | ⟨own, next, wrote, done, same⟩
    · cases same.symm.trans changed
    · obtain rfl := writes _ _ _ _ done
      obtain ⟨found, rfl⟩ := Prod.mk.inj (same.symm.trans changed)
      obtain rfl := Except.ok.inj found
      exact ⟨rfl, _, next, rfl, done, rfl, fun direct => absurd rfl direct⟩
  | some id =>
    rcases store.within_cases id change with
      ⟨_, same⟩ | ⟨work, live, ⟨_, same⟩ | ⟨own, next, wrote, done, same⟩⟩
    · cases same.symm.trans changed
    · cases same.symm.trans changed
    · obtain rfl := writes _ _ _ _ done
      obtain ⟨found, rfl⟩ := Prod.mk.inj (same.symm.trans changed)
      obtain rfl := Except.ok.inj found
      refine ⟨rfl, (store.seen work).database, next, ?_, done, view_leaving live _,
        fun _ other apart => view_leaving_of_ne store apart _⟩
      rw [view, live]
      rfl

/-- Saving objects fails and changes nothing that anybody sees, not even in part, or it replaces
what their segment holds of them by their rows, where it is done, and changes nothing else. -/
theorem save_replaces_or_keeps (store : Store) (id : Option String) (target : Segment)
    (objects : List GraphObject) (pool : List Segment) :
    (∀ error after, store.save id target objects pool = (.error error, after) →
      after.scope = store.scope ∧ ∀ other, after.view other = store.view other) ∧
    (∀ saved after, store.save id target objects pool = (.ok saved, after) →
      saved = objects ∧ after.scope = store.scope ∧
        (objects ≠ [] → ∃ before next rows, store.view id = .ok before ∧
          after.view id = .ok next ∧
          GraphObject.allToRows store.scope.registry objects = .ok rows ∧
          before.Replaces next (store.scope.table target) (objects.map (·.uri)) rows ∧
          (id ≠ none → ∀ other, other ≠ id → after.view other = store.view other))) ∧
    ∀ database error left,
      store.scope.saveInTurn database target objects pool = (.error error, left) →
        left = database := by
  refine ⟨fun error after failed => ?_, fun saved after ran => ?_,
    fun database error left failed => ?_⟩
  · unfold save at failed
    split at failed
    next => cases failed
    next => exact change_eq_error failed
  · unfold save at ran
    split at ran
    next none =>
      obtain ⟨rfl, rfl⟩ : objects = saved ∧ store = after := by simpa using ran
      exact ⟨rfl, rfl, fun some => absurd (List.isEmpty_iff.1 none) some⟩
    next some =>
      have writes (database : Database) (value : List GraphObject) (next : Database) (wrote : Bool)
          (done : (do
            let next ← store.scope.save database target objects pool
            return (objects, next, true)) = Except.ok (value, next, wrote)) : wrote = true := by
        obtain ⟨_, -, done⟩ := bind_eq_ok.1 done
        exact (Prod.mk.inj (Prod.mk.inj (Except.ok.inj done)).2).2.symm
      obtain ⟨scope, before, next, seen, done, sees, apart⟩ := change_eq_ok writes ran
      obtain ⟨replaced, made, same⟩ := bind_eq_ok.1 done
      obtain ⟨rfl, rfl⟩ : objects = saved ∧ replaced = next := by simpa using Except.ok.inj same
      refine ⟨rfl, scope, fun named => ?_⟩
      obtain ⟨rows, written, replaces⟩ := StoreScope.replaces_of_save named made
      exact ⟨before, replaced, rows, seen, sees, written, replaces, apart⟩
  · rw [StoreScope.saveInTurn_eq] at failed
    split at failed
    next => exact (Prod.mk.inj failed).2.symm
    next => cases failed

/-- A node is saved again in a transaction, and once more in one that there is not. -/
theorem save_replaces_or_keeps_again :
    let scope : StoreScope := ⟨.core, (Configuration.standard "segments.sqlite").searchSettings⟩
    let segment : Segment := ⟨"s", "urn:s"⟩
    let node (uri : String) (time : Int64) : GraphObject :=
      (GraphObject.ofClass uri Vocabulary.nodeClass).set Vocabulary.hasTimestamp
        (.single (.long time))
    let rows (object : GraphObject) : List Row := (object.toRows .core).toOption.getD []
    let old := rows (node "urn:a" 7) ++ rows (node "urn:b" 7)
    let database := Database.ofTable (scope.table segment) (old.map .ofRow)
    let store : Store := ⟨scope, database, ⟨4, 1, [⟨"tx0", none⟩], []⟩⟩
    let again (id : String) : Except Error (List GraphObject) × Store :=
      store.save (some id) segment [node "urn:a" 8] [segment]
    (again "tx0").1 = .ok [node "urn:a" 8] ∧ (again "tx0").2.view none = .ok database ∧
      (∃ next, (again "tx0").2.view (some "tx0") = .ok next ∧
        next.recordsOf (scope.table segment) =
          .ok ((rows (node "urn:b" 7)).map .ofRow ++ (rows (node "urn:a" 8)).map .ofRow)) ∧
      (again "tx1").1.toOption.isNone = true ∧
      (again "tx1").2.view (some "tx0") = .ok database := by
  intro scope segment node rows old database store again
  have outcomes : (again "tx0").1.toOption.isSome = true ∧
      (again "tx1").1.toOption.isNone = true ∧
      (GraphObject.allToRows .core [node "urn:a" 8]).toOption = some (rows (node "urn:a" 8)) ∧
      old.filter (fun row => !(["urn:a"].contains row.uri)) = rows (node "urn:b" 7) := by
    decide +kernel
  obtain ⟨known, unknown, written, others⟩ := outcomes
  have kept : Record.without ["urn:a"] (old.map .ofRow) = (rows (node "urn:b" 7)).map .ofRow := by
    rw [Record.without, List.filter_map, ← others]
    rfl
  have save (id : String) :=
    save_replaces_or_keeps store (some id) segment [node "urn:a" 8] [segment]
  rcases ran : again "tx0" with ⟨error | saved, after⟩
  · rw [ran] at known
    cases known
  rcases failed : again "tx1" with ⟨error | _, left⟩
  · obtain ⟨rfl, -, replaced⟩ := (save "tx0").2.1 saved after ran
    obtain ⟨before, next, _, seen, sees, own, replaces, apart⟩ := replaced (List.cons_ne_nil _ _)
    obtain rfl : database = before := Except.ok.inj seen
    obtain rfl := Except.ok.inj ((eq_ok_of_toOption written).symm.trans own)
    obtain ⟨records, held, holds⟩ := replaces.target
    obtain rfl := Except.ok.inj ((Database.recordsOf_ofTable _ _).symm.trans held)
    refine ⟨rfl, apart (by simp) none (by simp), ⟨next, sees, holds.trans ?_⟩, rfl, ?_⟩
    · exact congrArg (fun left => Except.ok (left ++ (rows (node "urn:a" 8)).map .ofRow)) kept
    · exact ((save "tx1").1 error left failed).2 (some "tx0")
  · rw [failed] at unknown
    cases unknown

end Store

end GraphSegments
