import GraphSegments.Proofs.Configurations
import GraphSegments.Proofs.Store.Lifetimes
import GraphSegments.Proofs.Store.Replacement
import GraphSegments.Proofs.Table.Names

/-!
The tables of a store that was created. Segments are added and deleted statement by statement, and
whatever fails on the way, one empty table comes or one table goes at most. So all of them have
names that segments give them, and no two have the same.
-/

namespace GraphSegments
open Results

namespace Database

variable {database : Database} {table : String}

/-- Creating an index leaves the tables alone, unless the name of the table says otherwise. -/
theorem tables_createIndex {column : Column}
    (plain : (Statement.indexName table column).toList.contains Dialect.sqlite.identifierMark =
      false) : (database.createIndex table column).2.tables = database.tables := by
  unfold createIndex
  dsimp only
  rw [plain, if_neg Bool.false_ne_true]
  split
  next => rfl
  next indexed made =>
    obtain ⟨_, -, made⟩ := bind_eq_ok.1 made
    exact tables_addIndex made

/-- Creating a segment brings one empty table at most. -/
theorem tables_createSegment
    (plain : ∀ column, (Statement.indexName table column).toList.contains
      Dialect.sqlite.identifierMark = false) :
    let created := (database.execInTurn (Statement.createSegment table)).2.tables
    created = database.tables ∨
      database.isTaken table = false ∧ created = database.tables ++ [(table, [])] := by
  intro created
  cases taken : database.isTaken table with
  | true => exact .inl (by simp [created, Statement.createSegment, execInTurn, exec, taken])
  | false =>
    refine .inr ⟨rfl, ?_⟩
    let made : Database := { database with tables := database.tables ++ [(table, [])] }
    have first : created = (made.execInTurn
        [.createIndex table .uri, .createIndex table .name]).2.tables := by
      simp [created, Statement.createSegment, execInTurn, exec, taken, made]
    have byUri : (made.createIndex table .uri).2.tables = made.tables :=
      tables_createIndex (plain .uri)
    rw [first]
    simp only [execInTurn]
    split
    next left failed => exact (congrArg (·.2.tables) failed).symm.trans byUri
    next next indexed =>
      have byName : (next.createIndex table .name).2.tables = next.tables :=
        tables_createIndex (plain .name)
      have kept : next.tables = made.tables :=
        (congrArg (·.2.tables) indexed).symm.trans byUri
      split
      next left failed => exact (congrArg (·.2.tables) failed).symm.trans (byName.trans kept)
      next last indexed => exact (congrArg (·.2.tables) indexed).symm.trans (byName.trans kept)

theorem mem_tableNames {known : String × List Record} (listed : known ∈ database.tables) :
    known.1 ∈ database.tableNames := List.mem_map_of_mem listed

theorem not_mem_tableNames_of_isTaken (free : database.isTaken table = false) :
    table ∉ database.tableNames := by
  intro listed
  have taken : (database.ownTables ++ database.tableNames ++ database.indexes.map (·.name)).any
      (sameName table) = true :=
    List.any_eq_true.2 ⟨table, by simp [listed], beq_self_eq_true _⟩
  rw [isTaken, taken, Bool.or_true] at free
  cases free

theorem tables_catalogRemove {uri : String} {next : Database}
    (removed : database.exec (.catalogRemove uri) = .ok next) : next.tables = database.tables := by
  obtain ⟨_, -, removed⟩ := bind_eq_ok.1 removed
  exact Except.ok.inj removed ▸ rfl

theorem tables_catalogInsert {id uri : String} {created : Nat} {next : Database}
    (inserted : database.exec (.catalogInsert id uri table created) = .ok next) :
    next.tables = database.tables := by
  simp only [exec] at inserted
  split at inserted
  next => cases inserted
  next =>
    split at inserted
    next => cases inserted
    next => exact Except.ok.inj inserted ▸ rfl

/-- The tables have names that segments give them, and no two have the same. -/
structure IsNamed (start : String) (database : Database) : Prop where
  named : ∀ name ∈ database.tableNames, ∃ segmentUri, name = TableName.ofUri start segmentUri
  distinct : database.tableNames.Nodup

namespace IsNamed

variable {start : String} {next : Database} (isNamed : database.IsNamed start)
include isNamed

/-- Tables whose names mean the same are the same. -/
theorem sameName_iff {name segmentUri : String} (listed : name ∈ database.tableNames) :
    sameName name (TableName.ofUri start segmentUri) = true ↔
      name = TableName.ofUri start segmentUri := by
  obtain ⟨other, rfl⟩ := isNamed.named name listed
  exact TableName.sameName_ofUri

theorem eq_of_name {first second : String × List Record} (one : first ∈ database.tables)
    (two : second ∈ database.tables) (same : first.1 = second.1) : first = second :=
  List.inj_on_of_nodup_map isNamed.distinct one two same

/-- A table has the records that are listed with its name. -/
theorem recordsOf_of_mem {name : String} {records : List Record}
    (listed : (name, records) ∈ database.tables) : database.recordsOf name = .ok records := by
  obtain ⟨uri, named⟩ := isNamed.named name (mem_tableNames listed)
  have found : (database.tables.find? fun known => sameName known.1 name).isSome = true :=
    List.find?_isSome.2 ⟨_, listed, beq_self_eq_true _⟩
  obtain ⟨first, found⟩ := Option.isSome_iff_exists.1 found
  have inside := List.mem_of_find?_eq_some found
  have alike : sameName first.1 name = true := by simpa only using List.find?_some found
  rw [named] at alike
  have same := (isNamed.sameName_iff (mem_tableNames inside)).1 alike
  obtain rfl := isNamed.eq_of_name inside listed (same.trans named.symm)
  rw [recordsOf, records?, found]
  rfl

theorem setRecords (table : String) (records : List Record) :
    (database.setRecords table records).IsNamed start := by
  have names : (database.setRecords table records).tableNames = database.tableNames := by
    simp [tableNames, Database.setRecords]
  exact ⟨names ▸ isNamed.named, names ▸ isNamed.distinct⟩

theorem of_sublist (fewer : next.tables.Sublist database.tables) : next.IsNamed start :=
  ⟨fun _ listed => isNamed.named _ ((fewer.map _).subset listed),
    isNamed.distinct.sublist (fewer.map _)⟩

theorem of_append {segmentUri : String}
    (free : database.isTaken (TableName.ofUri start segmentUri) = false)
    (more : next.tables = database.tables ++ [(TableName.ofUri start segmentUri, [])]) :
    next.IsNamed start := by
  have names : next.tableNames = database.tableNames ++ [TableName.ofUri start segmentUri] := by
    rw [tableNames, more, List.map_append]
    rfl
  have new := not_mem_tableNames_of_isTaken free
  refine ⟨fun name listed => ?_, ?_⟩
  · rw [names, List.mem_append, List.mem_singleton] at listed
    exact listed.elim (isNamed.named name) fun same => ⟨segmentUri, same⟩
  · rw [names, List.nodup_append]
    refine ⟨isNamed.distinct, List.nodup_singleton _, fun old listed made own same => ?_⟩
    exact new (List.mem_singleton.1 own ▸ same ▸ listed)

end IsNamed

end Database

namespace StoreScope

variable {scope : StoreScope} {database : Database} {segment : Segment}

/-- A segment exists if its table does. -/
theorem hasSegment_iff :
    scope.hasSegment database segment = true ↔ scope.table segment ∈ database.tableNames := by
  rw [hasSegment, segmentTables, TableName.segments, List.contains_iff_mem, List.mem_mergeSort,
    List.mem_filter]
  exact and_iff_left (TableName.isSegment_ofUri _ _)

/-- What the tables of a store are called needs no marks. -/
def IsPlain (scope : StoreScope) : Prop :=
  ∀ c ∈ scope.settings.tablesStart.toList, Configuration.isIdentifierChar c = true

/-- The names of indexes of segment tables need no marks either. -/
theorem IsPlain.indexName (plain : scope.IsPlain) (segment : Segment) (column : Column) :
    (Statement.indexName (scope.table segment) column).toList.contains
      Dialect.sqlite.identifierMark = false := by
  have ends : ∀ column ∈ Column.all,
      Dialect.sqlite.identifierMark ∉ ("_" ++ column.label ++ "_idx").toList := by decide +kernel
  have digits : Dialect.sqlite.identifierMark ∉ Digest.alphabet := by decide
  have starts : Dialect.sqlite.identifierMark ∉ scope.settings.tablesStart.toList := fun inside =>
    absurd (plain _ inside) (by decide)
  have whole : (Statement.indexName (scope.table segment) column).toList =
      scope.settings.tablesStart.toList ++ TableName.digitsOf segment.uri ++
        ("_" ++ column.label ++ "_idx").toList := by
    rw [← TableName.toList_ofUri]
    simp [Statement.indexName, table]
  have absent : Dialect.sqlite.identifierMark ∉
      (Statement.indexName (scope.table segment) column).toList := by
    rw [whole, List.mem_append, List.mem_append]
    rintro ((inside | inside) | inside)
    · exact starts inside
    · exact digits (TableName.mem_alphabet inside)
    · exact ends column column.mem_all inside
  simpa using absent

theorem tables_enter (segment : Segment) (table : String) (database : Database) :
    (enter segment table database).2.tables = database.tables := by
  unfold enter
  split
  next => rfl
  next =>
    dsimp only
    split
    next => rfl
    next cleared removed =>
      have kept : cleared.tables = database.tables := by
        split at removed
        next => exact Database.tables_catalogRemove removed
        next => exact Except.ok.inj removed ▸ rfl
      split
      next => exact kept
      next entered inserted => exact (Database.tables_catalogInsert inserted).trans kept

/-- Adding a segment brings its table at most, with nothing in it. -/
theorem tables_addSegment (plain : scope.IsPlain) (database : Database) (segment : Segment) :
    let added := (scope.addSegment database segment).2.tables
    added = database.tables ∨
      database.isTaken (scope.table segment) = false ∧
        added = database.tables ++ [(scope.table segment, [])] := by
  intro added
  by_cases there : scope.hasSegment database segment = true
  · exact .inl (by simp only [added, addSegment, there, if_true])
  · have created := database.tables_createSegment (plain.indexName segment)
    have same : added =
        (database.execInTurn (Statement.createSegment (scope.table segment))).2.tables := by
      simp only [added, addSegment, there, if_false, Bool.false_eq_true]
      split
      next left ran => rw [ran]
      next left ran => rw [ran, tables_enter]
    rw [same]
    exact created

/-- Deleting a segment takes its table away at most. -/
theorem tables_deleteSegment (scope : StoreScope) (database : Database) (segment : Segment)
    (withData : Bool) :
    (scope.deleteSegment database segment withData).2.tables.Sublist database.tables := by
  unfold deleteSegment
  split
  next => exact .refl _
  next table _ =>
    split
    next => exact .refl _
    next =>
      split
      next => exact .refl _
      next dropped ran =>
        obtain ⟨_, -, ran⟩ := bind_eq_ok.1 ran
        obtain rfl := Except.ok.inj ran
        have fewer : (database.drop table).tables.Sublist database.tables := List.filter_sublist
        split
        next => exact fewer
        next removed cleared => exact Database.tables_catalogRemove cleared ▸ fewer

end StoreScope

namespace Store

variable {store : Store}

/-- What holds of each operation in turn, in the state in which it comes. -/
def Along (holds : Store → Operation → Prop) (store : Store) : List Operation → Prop
  | [] => True
  | operation :: rest => holds store operation ∧ Along holds (store.after operation) rest

/-- What each operation keeps, all of them keep. -/
theorem afterAll_of_along {holds : Store → Operation → Prop} (invariant : Store → Prop)
    (step : ∀ before operation, invariant before → holds before operation →
      invariant (before.after operation))
    (start : invariant store) {operations : List Operation} (along : store.Along holds operations) :
    invariant (store.afterAll operations) := by
  induction operations generalizing store with
  | nil => exact start
  | cons operation rest ih => exact ih (step _ _ start along.1) along.2

/-- A new store is one on a database that has been set up, and its tables are called by names that
need no marks. -/
theorem eq_and_isPlain_of_create {config : Configuration} {registry : Registry}
    (created : create config registry = .ok store) :
    store = ofDatabase config registry Database.empty.setUp.2 ∧ store.scope.IsPlain := by
  cases valid : config.validate with
  | error error =>
    rw [create, openOn, valid] at created
    cases created
  | ok done =>
    obtain rfl := Except.ok.inj (created.symm.trans (create_eq_ok registry valid))
    exact ⟨rfl, Configuration.isIdentifierChar_of_validate valid⟩

end Store

end GraphSegments
