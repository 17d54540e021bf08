import GraphSegments.Proofs.Store.Holdings
import GraphSegments.Proofs.Store.Tables

/-!
An object has one home. As long as every save is made with a pool that lists all segments there are,
no object comes into a second table: a save that would bring it there is refused.
-/

namespace GraphSegments
open Results

namespace Record

variable {records : List Record} {uri : String}

theorem hold_append {more : List Record} :
    Hold (records ++ more) uri ↔ Hold records uri ∨ Hold more uri := by
  simp [Hold, or_and_right, exists_or]

theorem any_eq_true_iff_hold : (records.any (·.uri == uri)) = true ↔ Hold records uri := by
  simp [Hold]

/-- The rows of objects are held of these objects. -/
theorem exists_of_hold_rows {registry : Registry} {objects : List GraphObject} {rows : List Row}
    (written : GraphObject.allToRows registry objects = .ok rows)
    (held : Hold (rows.map ofRow) uri) : uri ∈ objects.map (·.uri) := by
  obtain ⟨record, listed, rfl⟩ := held
  obtain ⟨row, inside, rfl⟩ := List.mem_map.1 listed
  obtain ⟨object, member, own, wrote, mine⟩ := (GraphObject.mem_allToRows written).1 inside
  exact List.mem_map.2 ⟨object, member, (GraphObject.repeated_of_mem_toRows wrote mine).1.symm⟩

end Record

namespace Database

/-- No object is held by two tables. -/
structure IsHomed (start : String) (database : Database) : Prop extends
    Database.IsNamed start database where
  apart : ∀ first ∈ database.tables, ∀ second ∈ database.tables, ∀ uri,
    Record.Hold first.2 uri → Record.Hold second.2 uri → first.1 = second.1

variable {start : String} {database next : Database}

/-- Every object of a table was one of the table of that name. -/
def IsWithin (next database : Database) : Prop :=
  ∀ table ∈ next.tables, ∀ uri, Record.Hold table.2 uri →
    ∃ old ∈ database.tables, old.1 = table.1 ∧ Record.Hold old.2 uri

namespace IsHomed

variable (isHomed : database.IsHomed start)
include isHomed

theorem of_isWithin (isNamed : next.IsNamed start) (inside : next.IsWithin database) :
    next.IsHomed start := by
  refine ⟨isNamed, fun first one second two uri held again => ?_⟩
  obtain ⟨old, there, same, before⟩ := inside first one uri held
  obtain ⟨other, here, alike, too⟩ := inside second two uri again
  exact same.symm.trans ((isHomed.apart old there other here uri before too).trans alike)

/-- A table may lose objects. -/
theorem setRecords {table : String} {records kept : List Record}
    (present : database.recordsOf table = .ok records)
    (fewer : ∀ uri, Record.Hold kept uri → Record.Hold records uri) :
    (database.setRecords table kept).IsHomed start := by
  refine isHomed.of_isWithin (isHomed.toIsNamed.setRecords table kept)
    fun changed listed uri held => ?_
  obtain ⟨known, member, rfl⟩ := List.mem_map.1 listed
  refine ⟨known, member, rfl, ?_⟩
  dsimp only at held
  split at held
  next same =>
    have own := isHomed.recordsOf_of_mem member
    rw [recordsOf_congr _ same, present] at own
    exact Except.ok.inj own ▸ fewer uri held
  next => exact held

theorem of_append {segmentUri : String}
    (free : database.isTaken (TableName.ofUri start segmentUri) = false)
    (more : next.tables = database.tables ++ [(TableName.ofUri start segmentUri, [])]) :
    next.IsHomed start := by
  refine isHomed.of_isWithin (isHomed.toIsNamed.of_append free more) fun table listed uri held => ?_
  rw [more, List.mem_append, List.mem_singleton] at listed
  rcases listed with known | rfl
  · exact ⟨table, known, rfl, held⟩
  · obtain ⟨record, inside, -⟩ := held
    cases inside

theorem of_sublist (fewer : next.tables.Sublist database.tables) : next.IsHomed start :=
  isHomed.of_isWithin (isHomed.toIsNamed.of_sublist fewer) fun table listed _ held =>
    ⟨table, fewer.subset listed, rfl, held⟩

/-- A table may get objects that no other table holds. -/
theorem insert {segmentUri : String} {records added : List Record} {uris : List String}
    (present : database.recordsOf (TableName.ofUri start segmentUri) = .ok records)
    (own : ∀ uri, Record.Hold added uri → uri ∈ uris)
    (absent : ∀ table ∈ database.tables, table.1 ≠ TableName.ofUri start segmentUri →
      ∀ uri ∈ uris, ¬ Record.Hold table.2 uri) :
    (database.setRecords (TableName.ofUri start segmentUri)
      (Record.without uris records ++ added)).IsHomed start := by
  refine ⟨isHomed.toIsNamed.setRecords _ _, fun first one second two uri held again => ?_⟩
  obtain ⟨first, here, rfl⟩ := List.mem_map.1 one
  obtain ⟨second, there, rfl⟩ := List.mem_map.1 two
  -- What the changed table holds, no other table holds.
  have foreign : ∀ table ∈ database.tables, table.1 = TableName.ofUri start segmentUri →
      ∀ other ∈ database.tables, other.1 ≠ TableName.ofUri start segmentUri →
        Record.Hold (Record.without uris records ++ added) uri → ¬ Record.Hold other.2 uri := by
    intro table listed same other member differs held
    rcases Record.hold_append.1 held with old | new
    · intro both
      have mine := isHomed.recordsOf_of_mem listed
      rw [same, present] at mine
      have before : Record.Hold table.2 uri := Except.ok.inj mine ▸ (Record.hold_without.1 old).2
      exact differs ((isHomed.apart other member table listed uri both before).trans same)
    · exact absent other member differs uri (own uri new)
  have meant {table : String × List Record} (listed : table ∈ database.tables) :
      sameName table.1 (TableName.ofUri start segmentUri) = true ↔
        table.1 = TableName.ofUri start segmentUri :=
    isHomed.sameName_iff (mem_tableNames listed)
  dsimp only at held again ⊢
  simp only [meant here, meant there] at held again
  by_cases one : first.1 = TableName.ofUri start segmentUri <;>
    by_cases two : second.1 = TableName.ofUri start segmentUri
  · exact one.trans two.symm
  · rw [if_pos one] at held
    rw [if_neg two] at again
    exact absurd again (foreign first here one second there two held)
  · rw [if_neg one] at held
    rw [if_pos two] at again
    exact absurd held (foreign second there two first here one again)
  · rw [if_neg one] at held
    rw [if_neg two] at again
    exact isHomed.apart first here second there uri held again

end IsHomed

end Database

namespace StoreScope

variable {scope : StoreScope} {database next : Database} {target : Segment}
  {objects : List GraphObject} {pool : List Segment}

/-- Whether the tables of all segments that exist are those of segments of a pool. -/
def ListsAll (scope : StoreScope) (database : Database) (pool : List Segment) : Prop :=
  ∀ segment, scope.hasSegment database segment = true →
    ∃ known ∈ pool, scope.table known = scope.table segment

theorem listsAll_of_tableNames
    (covers : ∀ name ∈ database.tableNames, ∃ known ∈ pool, scope.table known = name) :
    scope.ListsAll database pool :=
  fun segment there => covers (scope.table segment) (hasSegment_iff.1 there)

theorem ListsAll.mem_poolTables (all : scope.ListsAll database pool)
    (isNamed : database.IsNamed scope.settings.tablesStart) {table : String × List Record}
    (listed : table ∈ database.tables) :
    ∃ segment ∈ pool, (segment, table.1) ∈ scope.poolTables database pool := by
  obtain ⟨uri, named⟩ := isNamed.named table.1 (Database.mem_tableNames listed)
  have stored : scope.table ⟨"", uri⟩ ∈ database.tableNames := by
    change TableName.ofUri scope.settings.tablesStart uri ∈ database.tableNames
    exact named ▸ Database.mem_tableNames listed
  obtain ⟨known, inside, same⟩ := all _ (hasSegment_iff.2 stored)
  have there : scope.hasSegment database known = true := hasSegment_iff.2 (same ▸ stored)
  refine ⟨known, inside, List.mem_map.2 ⟨known, List.mem_filter.2 ⟨inside, there⟩, ?_⟩⟩
  exact congrArg (Prod.mk known) (same.trans named.symm)

/-- Of a batch that another table than its own holds an object of, nothing is saved, if the pool
lists all segments. -/
theorem save_eq_conflict (isNamed : database.IsNamed scope.settings.tablesStart)
    (there : scope.hasSegment database target = true) (all : scope.ListsAll database pool)
    {table : String × List Record} (listed : table ∈ database.tables)
    (other : table.1 ≠ scope.table target) {object : GraphObject} (member : object ∈ objects)
    (held : Record.Hold table.2 object.uri) :
    ∃ object ∈ objects, ∃ segment ∈ pool, scope.table segment ≠ scope.table target ∧
      (∃ table ∈ database.tables,
        table.1 = scope.table segment ∧ Record.Hold table.2 object.uri) ∧
      scope.save database target objects pool =
        .error (.conflict (.storedElsewhere object.uri segment.uri)) := by
  obtain ⟨segment, inside, pooled⟩ := all.mem_poolTables isNamed listed
  rcases refuseStored_cases (scope.exists_recordsOf_of_poolTables pool)
      (scope.table target) (objects.map (·.uri)) with ⟨-, apart⟩ | ⟨known, pooled, refused⟩
  · exact absurd held (apart _ pooled other table.2 (isNamed.recordsOf_of_mem listed) object.uri
      (List.mem_map_of_mem member))
  · obtain ⟨differs, uri, among, ⟨records, present, holds⟩, refused⟩ := refused
    obtain ⟨object, member, rfl⟩ := List.mem_map.1 among
    obtain ⟨segment, inside, rfl⟩ := List.mem_map.1 pooled
    obtain ⟨pooled, stored⟩ := List.mem_filter.1 inside
    obtain ⟨held, listed, named⟩ := List.mem_map.1 (hasSegment_iff.1 stored)
    have own := isNamed.recordsOf_of_mem listed
    rw [named, present] at own
    refine ⟨object, member, segment, pooled, differs, ⟨held, listed, named, ?_⟩, ?_⟩
    · exact Except.ok.inj own ▸ holds
    · simp only [save, saveStatements, requireTable, there, if_true, ok_bind, refused, error_bind]

/-- Saving with a pool that lists all segments leaves every object in one table. -/
theorem isHomed_save (isHomed : database.IsHomed scope.settings.tablesStart)
    (all : scope.ListsAll database pool) (some : objects ≠ [])
    (saved : scope.save database target objects pool = .ok next) :
    next.IsHomed scope.settings.tablesStart := by
  obtain ⟨records, rows, there, present, written, rfl⟩ := save_eq_ok some saved
  refine isHomed.insert present (fun uri held => Record.exists_of_hold_rows written held)
    fun table listed other uri among held => ?_
  obtain ⟨object, member, rfl⟩ := List.mem_map.1 among
  obtain ⟨_, -, _, -, -, -, refused⟩ :=
    save_eq_conflict isHomed.toIsNamed there all listed other member held
  cases saved.symm.trans refused

theorem isHomed_deleteBatch {uris : List String} {count : Nat}
    (isHomed : database.IsHomed scope.settings.tablesStart)
    (deleted : scope.deleteBatch database pool uris = .ok (count, next)) :
    next.IsHomed scope.settings.tablesStart := by
  obtain ⟨_, _, ran, -, kept⟩ :=
    exists_deleteFrom (scope.exists_recordsOf_of_poolTables pool) uris
  obtain ⟨-, rfl⟩ := Prod.mk.inj (Except.ok.inj (ran.symm.trans deleted))
  exact kept _ isHomed fun before table records found homed present =>
    homed.setRecords present fun uri held => (Record.hold_without.1 held).2

theorem isHomed_deleteAll {segment : Segment}
    (isHomed : database.IsHomed scope.settings.tablesStart)
    (deleted : scope.deleteAll database segment = .ok next) :
    next.IsHomed scope.settings.tablesStart := by
  obtain ⟨table, -, ran⟩ := bind_eq_ok.1 deleted
  obtain ⟨records, present, ran⟩ := bind_eq_ok.1 ran
  obtain rfl := Except.ok.inj ran
  refine isHomed.setRecords present fun uri held => ?_
  obtain ⟨record, listed, -⟩ := held
  cases listed

end StoreScope

namespace Store

/-- An operation outside of transactions which, if it saves, does so with a pool that lists all
segments. -/
def Operation.IsDirect (store : Store) : Operation → Prop
  | save transaction _ _ pool => transaction = none ∧ store.scope.ListsAll store.database pool
  | deleteBatch transaction _ _ => transaction = none
  | deleteAll _ | addSegment _ | deleteSegment _ _ => True
  | createTransaction | commitTransaction _ | rollbackTransaction _ | close => False

/-- No object of a store is held by two tables. -/
structure IsHomed (store : Store) : Prop where
  plain : store.scope.IsPlain
  homed : store.database.IsHomed store.scope.settings.tablesStart

section Steps

variable {store : Store} (isHomed : store.IsHomed)
include isHomed

theorem IsHomed.directly {α : Type} {change : Change α}
    (keeps : ∀ value next wrote, change store.database = .ok (value, next, wrote) →
      next.IsHomed store.scope.settings.tablesStart) : (store.directly change).2.IsHomed := by
  rcases store.directly_cases change with ⟨error, made⟩ | ⟨value, next, wrote, done, made⟩
  · rw [made]
    exact isHomed
  · rw [made]
    cases wrote with
    | false => exact isHomed
    | true => exact ⟨isHomed.plain, keeps _ _ _ done⟩

theorem IsHomed.after (operation : Operation) (direct : operation.IsDirect store) :
    (store.after operation).IsHomed := by
  cases operation with
  | save transaction target objects pool =>
    obtain ⟨rfl, all⟩ := direct
    simp only [Store.after, Store.save]
    split
    next => exact isHomed
    next some =>
      refine isHomed.directly fun value next wrote changed => ?_
      obtain ⟨saved, ran, same⟩ := bind_eq_ok.1 changed
      obtain ⟨-, rfl, -⟩ : _ ∧ saved = next ∧ _ := by simpa using Except.ok.inj same
      exact StoreScope.isHomed_save isHomed.homed all (by simpa using some) ran
  | deleteBatch transaction pool uris =>
    obtain rfl : transaction = none := direct
    simp only [Store.after, Store.deleteBatch]
    split
    next => exact isHomed
    next =>
      refine isHomed.directly fun value next wrote changed => ?_
      obtain ⟨⟨count, cleared⟩, ran, same⟩ := bind_eq_ok.1 changed
      obtain ⟨-, rfl, -⟩ : _ ∧ cleared = next ∧ _ := by simpa using Except.ok.inj same
      exact StoreScope.isHomed_deleteBatch isHomed.homed ran
  | deleteAll segment =>
    refine isHomed.directly fun value next wrote changed => ?_
    obtain ⟨cleared, ran, same⟩ := bind_eq_ok.1 changed
    obtain ⟨rfl, -⟩ : cleared = next ∧ _ := by simpa using Except.ok.inj same
    exact StoreScope.isHomed_deleteAll isHomed.homed ran
  | addSegment segment =>
    simp only [Store.after]
    rcases store.addSegment_cases segment with same | added
    · rw [same]
      exact isHomed
    · rw [added]
      refine ⟨isHomed.plain, ?_⟩
      rcases StoreScope.tables_addSegment isHomed.plain store.database segment with
        same | ⟨free, more⟩
      · exact isHomed.homed.of_sublist (same ▸ .refl _)
      · exact isHomed.homed.of_append free more
  | deleteSegment segment withData =>
    simp only [Store.after]
    rcases store.deleteSegment_cases segment withData with same | deleted
    · rw [same]
      exact isHomed
    · rw [deleted]
      exact ⟨isHomed.plain,
        isHomed.homed.of_sublist (store.scope.tables_deleteSegment store.database segment true)⟩
  | _ => exact direct.elim

end Steps

theorem isHomed_of_create {config : Configuration} {registry : Registry} {store : Store}
    (created : create config registry = .ok store) : store.IsHomed := by
  obtain ⟨rfl, plain⟩ := eq_and_isPlain_of_create created
  refine ⟨plain, ⟨⟨fun _ listed => ?_, List.nodup_nil⟩, fun _ listed => ?_⟩⟩ <;> cases listed

/-- However a new store is used outside of transactions, as long as every save is made with a pool
that lists all segments, each object is in one table at most. A batch with an object that is in
another segment than the one it is meant for is refused as a whole, and the answer names such an
object and a segment that has it. -/
theorem object_has_one_home {config : Configuration} {registry : Registry} {store : Store}
    (created : create config registry = .ok store) {operations : List Operation}
    (direct : store.Along (fun before operation => operation.IsDirect before) operations) :
    let reached := store.afterAll operations
    let tables := reached.database.tables
    (∀ uri, (tables.filter fun table => table.2.any (·.uri == uri)).length ≤ 1) ∧
    ∀ target objects pool, store.scope.hasSegment reached.database target = true →
      store.scope.ListsAll reached.database pool →
      (∃ object ∈ objects, ∃ table ∈ tables, table.1 ≠ store.scope.table target ∧
        table.2.any (·.uri == object.uri) = true) →
      ∃ object ∈ objects, ∃ segment ∈ pool,
        store.scope.table segment ≠ store.scope.table target ∧
        (∃ table ∈ tables, table.1 = store.scope.table segment ∧
          table.2.any (·.uri == object.uri) = true) ∧
        reached.save none target objects pool =
          (.error (.conflict (.storedElsewhere object.uri segment.uri)), reached) := by
  intro reached tables
  have isHomed : reached.IsHomed :=
    afterAll_of_along IsHomed (fun _ operation homed holds => homed.after operation holds)
      (isHomed_of_create created) direct
  rw [← store.scope_afterAll operations]
  simp only [Record.any_eq_true_iff_hold]
  refine ⟨fun uri => ?_, fun target objects pool there all elsewhere => ?_⟩
  · have listed : ∀ table ∈ tables.filter (fun table => table.2.any (·.uri == uri)),
        table ∈ tables ∧ Record.Hold table.2 uri := fun table inside =>
      ⟨(List.mem_filter.1 inside).1, Record.any_eq_true_iff_hold.1 (List.mem_filter.1 inside).2⟩
    have distinct : (tables.filter fun table => table.2.any (·.uri == uri)).Nodup :=
      isHomed.homed.distinct.of_map.filter _
    generalize tables.filter (fun table => table.2.any (·.uri == uri)) = holders at listed distinct
    match holders with
    | [] => exact Nat.zero_le 1
    | [_] => exact Nat.le_refl 1
    | first :: second :: rest =>
      obtain ⟨one, held⟩ := listed first List.mem_cons_self
      obtain ⟨two, again⟩ := listed second (List.mem_cons_of_mem _ List.mem_cons_self)
      have same := isHomed.homed.eq_of_name one two
        (isHomed.homed.apart first one second two uri held again)
      exact absurd (same ▸ List.mem_cons_self) (List.nodup_cons.1 distinct).1
  · obtain ⟨object, member, table, listed, other, held⟩ := elsewhere
    obtain ⟨object, member, segment, inside, differs, held, refused⟩ :=
      StoreScope.save_eq_conflict isHomed.homed.toIsNamed there all listed other member held
    refine ⟨object, member, segment, inside, differs, held, ?_⟩
    have some : objects.isEmpty = false :=
      List.isEmpty_eq_false_iff.2 (List.ne_nil_of_mem member)
    simp only [save, some, Bool.false_eq_true, if_false, change, directly, refused, error_bind]

/-- A node in one of two segments is not saved in the other one. -/
theorem object_has_one_home_refused :
    let first : Segment := ⟨"s", "urn:s"⟩
    let second : Segment := ⟨"t", "urn:t"⟩
    let node : GraphObject := GraphObject.ofClass "urn:a" Vocabulary.nodeClass
    let operations : List Operation :=
      [.addSegment first, .save none first [node] [first], .addSegment second]
    let store := ofDatabase (.standard "segments.sqlite") .core Database.empty.setUp.2
    create (.standard "segments.sqlite") .core = .ok store ∧
      store.Along (fun before operation => operation.IsDirect before) operations ∧
      ((store.afterAll operations).database.tables.filter fun table =>
        table.2.any (·.uri == "urn:a")).length ≤ 1 ∧
      (store.afterAll operations).save none second [node] [first, second] =
        (.error (.conflict (.storedElsewhere "urn:a" "urn:s")), store.afterAll operations) := by
  intro first second node operations store
  have created : create (.standard "segments.sqlite") .core = .ok store := create_eq_ok _ rfl
  -- One evaluation for both states, since the second one comes out of the first.
  obtain ⟨start, tables⟩ :
      (store.after (.addSegment first)).database.tableNames = [store.scope.table first] ∧
      ((store.afterAll operations).database.tables.map fun table =>
        (table.1, table.2.any (·.uri == "urn:a"))) =
          [(store.scope.table first, true), (store.scope.table second, false)] := by
    decide +kernel
  have listsAll : (store.after (.addSegment first)).scope.ListsAll
      (store.after (.addSegment first)).database [first] := by
    rw [store.scope_after]
    exact StoreScope.listsAll_of_tableNames (by rw [start]; simp)
  have direct : store.Along (fun before operation => operation.IsDirect before) operations :=
    ⟨trivial, ⟨rfl, listsAll⟩, trivial, trivial⟩
  have names : (store.afterAll operations).database.tableNames =
      [store.scope.table first, store.scope.table second] :=
    Eq.trans (by rw [List.map_map]; rfl) (congrArg (List.map Prod.fst) tables)
  have there : store.scope.hasSegment (store.afterAll operations).database second = true :=
    StoreScope.hasSegment_iff.2 (by rw [names]; exact List.mem_cons_of_mem _ List.mem_cons_self)
  have all : store.scope.ListsAll (store.afterAll operations).database [first, second] :=
    StoreScope.listsAll_of_tableNames (by rw [names]; simp)
  have one : (store.scope.table first, true) ∈
      (store.afterAll operations).database.tables.map fun table =>
        (table.1, table.2.any (·.uri == "urn:a")) := by
    rw [tables]
    exact List.mem_cons_self
  obtain ⟨held, listed, here⟩ := List.mem_map.1 one
  obtain ⟨named, holds⟩ := Prod.mk.inj here
  have differs : store.scope.table first ≠ store.scope.table second := by decide +kernel
  obtain ⟨few, refuses⟩ := object_has_one_home created direct
  obtain ⟨object, member, segment, pooled, other, -, refused⟩ :=
    refuses second [node] [first, second] there all
      ⟨node, List.mem_singleton_self node, held, listed, named ▸ differs, holds⟩
  obtain rfl := List.mem_singleton.1 member
  have other : segment ≠ second := fun same => other (congrArg store.scope.table same)
  obtain rfl : segment = first := by simpa [other] using pooled
  exact ⟨created, direct, few "urn:a", refused⟩

end Store

end GraphSegments
