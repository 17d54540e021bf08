import Mathlib.Data.Set.Function
import GraphSegments.Proofs.Database.Indexes
import GraphSegments.Proofs.Store.Tables

/-!
The catalog of a store knows the segments that have tables, as long as no segment is added under the
id of another one. Where one is, its table is left behind without an entry.
-/

namespace GraphSegments
open Results

namespace Database

/-- A database with one more table, which has nothing in it but is indexed. -/
def withSegment (database : Database) (table : String) : Database :=
  { database with
    tables := database.tables ++ [(table, [])]
    indexes := database.indexes ++
      [⟨Statement.indexName table .uri, table⟩, ⟨Statement.indexName table .name, table⟩] }

/-- A database with some catalog. -/
def cataloging (database : Database) (entries : List CatalogEntry) : Database :=
  { database with catalog := some entries }

theorem tableNames_withSegment (database : Database) (table : String) :
    (database.withSegment table).tableNames = database.tableNames ++ [table] := by
  simp [tableNames, withSegment]

/-- The tables of a database are those of segments that the catalog knows by URIs of a set. -/
structure IsCataloged (start : String) (used : Set String) (database : Database)
    (entries : List CatalogEntry) : Prop where
  catalog : database.catalog = some entries
  known : ∀ entry ∈ entries, entry.segment.uri ∈ used ∧
    entry.table = TableName.ofUri start entry.segment.uri
  tables : database.tableNames = entries.map (·.table)
  distinct : database.tableNames.Nodup
  indexes : database.HasOwnIndexes

variable {start : String} {database : Database} {segmentUri : String}

namespace IsCataloged

variable {used : Set String} {entries : List CatalogEntry}
  (isCataloged : database.IsCataloged start used entries)
include isCataloged

theorem isNamed : database.IsNamed start := by
  refine ⟨fun name listed => ?_, isCataloged.distinct⟩
  rw [isCataloged.tables] at listed
  obtain ⟨entry, inside, rfl⟩ := List.mem_map.1 listed
  exact ⟨_, (isCataloged.known entry inside).2⟩

theorem table_eq : ∀ entry ∈ entries, entry.table = TableName.ofUri start entry.segment.uri :=
  fun entry listed => (isCataloged.known entry listed).2

theorem table_mem : ∀ entry ∈ entries, entry.table ∈ database.tableNames := by
  rw [isCataloged.tables]
  exact fun _ listed => List.mem_map_of_mem listed

/-- A segment is in the catalog exactly if its table is there. -/
theorem mem_uris_iff (apart : Set.InjOn (TableName.ofUri start) used) (inside : segmentUri ∈ used) :
    segmentUri ∈ entries.map (·.segment.uri) ↔
      TableName.ofUri start segmentUri ∈ database.tableNames := by
  rw [isCataloged.tables, List.mem_map, List.mem_map]
  constructor
  · rintro ⟨entry, listed, rfl⟩
    exact ⟨entry, listed, isCataloged.table_eq entry listed⟩
  · rintro ⟨entry, listed, same⟩
    obtain ⟨own, named⟩ := isCataloged.known entry listed
    exact ⟨entry, listed, apart own inside (named.symm.trans same)⟩

theorem nodup_uris : (entries.map (·.segment.uri)).Nodup := by
  have tables := isCataloged.distinct
  rw [isCataloged.tables] at tables
  have names : entries.map (·.table) =
      (entries.map (·.segment.uri)).map (TableName.ofUri start) := by
    rw [List.map_map]
    exact List.map_congr_left isCataloged.table_eq
  exact (names ▸ tables).of_map

/-- A segment table is created with its indexes if its name can be given. -/
theorem execInTurn_createSegment
    (plain : ∀ column,
      (Statement.indexName (TableName.ofUri start segmentUri) column).toList.contains
        Dialect.sqlite.identifierMark = false)
    (free : database.isTaken (TableName.ofUri start segmentUri) = false) :
    database.execInTurn (Statement.createSegment (TableName.ofUri start segmentUri)) =
      (.ok (), database.withSegment (TableName.ofUri start segmentUri)) := by
  obtain ⟨possible, clean, -⟩ := isTaken_eq_false_iff.1 free
  let created : Database :=
    { database with tables := database.tables ++ [(TableName.ofUri start segmentUri, [])] }
  let indexed : Database :=
    { created with indexes := database.indexes ++
        [⟨Statement.indexName (TableName.ofUri start segmentUri) .uri,
          TableName.ofUri start segmentUri⟩] }
  have isNamed : created.IsNamed start := isCataloged.isNamed.of_append free rfl
  have newest : (TableName.ofUri start segmentUri, []) ∈ created.tables :=
    List.mem_append_right _ List.mem_cons_self
  have present : created.recordsOf (TableName.ofUri start segmentUri) = .ok [] :=
    isNamed.recordsOf_of_mem newest
  have old := isCataloged.indexes.leavesIndex isCataloged.isNamed.named free
  have left : indexed.LeavesIndex start segmentUri .name := by
    intro index listed
    rcases List.mem_append.1 listed with known | new
    · exact old .name index known
    · obtain rfl := List.mem_singleton.1 new
      exact .inr ⟨segmentUri, .uri, by decide, rfl, fun same => by cases same⟩
  have first : database.exec (.createTable (TableName.ofUri start segmentUri)) = .ok created := by
    rw [exec, if_neg (Bool.eq_false_iff.1 free)]
  have byUri : created.createIndex (TableName.ofUri start segmentUri) .uri = (.ok (), indexed) :=
    createIndex_of_free (plain .uri) present
      (isTaken_indexName (by decide) possible clean isNamed.named (old .uri))
  have still : indexed.recordsOf (TableName.ofUri start segmentUri) = .ok [] := present
  have byName := createIndex_of_free (plain .name) still
    (isTaken_indexName (by decide) possible clean isNamed.named left)
  simp only [Statement.createSegment, execInTurn, first, byUri, byName]
  simp [withSegment, indexed, created]

/-- A database with one more table has its own indexes. -/
theorem hasOwnIndexes_withSegment (table : String) :
    (database.withSegment table).HasOwnIndexes := by
  intro index listed
  rw [tableNames_withSegment]
  rcases List.mem_append.1 listed with known | new
  · rcases isCataloged.indexes index known with catalog | ⟨there, own⟩
    · exact .inl catalog
    · exact .inr ⟨List.mem_append_left _ there, own⟩
  · rw [List.mem_cons, List.mem_singleton] at new
    rcases new with rfl | rfl
    · exact .inr ⟨List.mem_append_right _ List.mem_cons_self, .uri, by decide, rfl⟩
    · exact .inr ⟨List.mem_append_right _ List.mem_cons_self, .name, by decide, rfl⟩

/-- A segment gets a table and an entry. -/
theorem add {segment : Segment} (inside : segment.uri ∈ used)
    (free : database.isTaken (TableName.ofUri start segment.uri) = false) :
    IsCataloged start used
      ((database.withSegment (TableName.ofUri start segment.uri)).cataloging
        (entries ++ [⟨segment, TableName.ofUri start segment.uri⟩]))
      (entries ++ [⟨segment, TableName.ofUri start segment.uri⟩]) where
  catalog := rfl
  known entry listed := by
    rcases List.mem_append.1 listed with old | new
    · exact isCataloged.known entry old
    · obtain rfl := List.mem_singleton.1 new
      exact ⟨inside, rfl⟩
  tables := by
    change (database.withSegment (TableName.ofUri start segment.uri)).tableNames = _
    rw [tableNames_withSegment, isCataloged.tables, List.map_append]
    rfl
  distinct := (isCataloged.isNamed.of_append free rfl).distinct
  indexes := isCataloged.hasOwnIndexes_withSegment _

/-- A segment loses its table and its entry. -/
theorem remove (apart : Set.InjOn (TableName.ofUri start) used) (inside : segmentUri ∈ used) :
    IsCataloged start used
      ((database.drop (TableName.ofUri start segmentUri)).cataloging
        (entries.filter (·.segment.uri != segmentUri)))
      (entries.filter (·.segment.uri != segmentUri)) where
  catalog := rfl
  known entry listed := isCataloged.known entry (List.mem_filter.1 listed).1
  tables := by
    have names : (database.drop (TableName.ofUri start segmentUri)).tableNames =
        database.tableNames.filter fun name =>
          !sameName name (TableName.ofUri start segmentUri) := by
      simp only [tableNames, drop, List.filter_map]
      rfl
    have kept : ∀ entry ∈ entries,
        (!sameName entry.table (TableName.ofUri start segmentUri)) =
          (entry.segment.uri != segmentUri) := by
      intro entry listed
      obtain ⟨own, named⟩ := isCataloged.known entry listed
      rw [Bool.eq_iff_iff, Bool.not_eq_true', Bool.eq_false_iff, Ne, named,
        TableName.sameName_ofUri, apart.eq_iff own inside, bne_iff_ne]
    change (database.drop (TableName.ofUri start segmentUri)).tableNames = _
    rw [names, isCataloged.tables, List.filter_map]
    exact congrArg (List.map _) (List.filter_congr kept)
  distinct := (isCataloged.isNamed.of_sublist List.filter_sublist).distinct
  indexes index listed := by
    obtain ⟨listed, other⟩ := List.mem_filter.1 listed
    rcases isCataloged.indexes index listed with catalog | ⟨there, own⟩
    · exact .inl catalog
    · obtain ⟨table, known, same⟩ := List.mem_map.1 there
      refine .inr ⟨List.mem_map.2 ⟨table, List.mem_filter.2 ⟨known, ?_⟩, same⟩, own⟩
      rw [same]
      exact other

end IsCataloged

end Database

namespace StoreScope

variable {scope : StoreScope} {database : Database} {segment : Segment} {used : Set String}
  {entries : List CatalogEntry}

/-- A segment whose URI the catalog does not know is entered unless its id is known. -/
theorem enter_of_not_mem {table : String} (catalog : database.catalog = some entries)
    (new : segment.uri ∉ entries.map (·.segment.uri)) :
    enter segment table database =
      if segment.id ∈ entries.map (·.segment.id) then (.error .storage, database)
      else (.ok (), database.cataloging (entries ++ [⟨segment, table⟩])) := by
  have absent : entries.find? (·.segment.uri == segment.uri) = none := by
    rw [List.find?_eq_none]
    exact fun entry listed => by simpa using fun same => new (List.mem_map.2 ⟨entry, listed, same⟩)
  have stale : database.catalogFind segment.uri = .ok none := by
    rw [Database.catalogFind, Database.catalogRows, catalog]
    exact congrArg Except.ok absent
  have clashes : (entries.any fun entry =>
      entry.segment.id == segment.id || entry.segment.uri == segment.uri) =
        decide (segment.id ∈ entries.map (·.segment.id)) := by
    rw [Bool.eq_iff_iff, List.any_eq_true, decide_eq_true_eq, List.mem_map]
    constructor
    · rintro ⟨entry, listed, same⟩
      rw [Bool.or_eq_true, beq_iff_eq, beq_iff_eq] at same
      rcases same with same | same
      · exact ⟨entry, listed, same⟩
      · exact absurd (List.mem_map.2 ⟨entry, listed, same⟩) new
    · rintro ⟨entry, listed, same⟩
      exact ⟨entry, listed, by simp [same]⟩
  by_cases known : segment.id ∈ entries.map (·.segment.id) <;>
    simp only [enter, stale, Option.isSome_none, Bool.false_eq_true, if_false, Database.exec,
      catalog, clashes, known, decide_true, decide_false, if_true, Database.cataloging]

/-- The segments of the catalog are listed by ascending id, as long as their tables are there. -/
theorem listSegments_eq (catalog : database.catalog = some entries)
    (named : ∀ entry ∈ entries, entry.table = scope.table entry.segment)
    (there : ∀ entry ∈ entries, entry.table ∈ database.tableNames) :
    scope.listSegments database =
      .ok ((entries.mergeSort fun a b => a.segment.id ≤ b.segment.id).map (·.segment)) := by
  have all : (entries.mergeSort fun a b => a.segment.id ≤ b.segment.id).filter (fun entry =>
      (scope.segmentTables database).contains entry.table) =
        entries.mergeSort fun a b => a.segment.id ≤ b.segment.id := by
    rw [List.filter_eq_self]
    intro entry listed
    have old := List.mem_mergeSort.1 listed
    rw [named entry old]
    exact hasSegment_iff.2 (named entry old ▸ there entry old)
  rw [listSegments, Database.catalogEntries, Database.catalogRows, catalog]
  exact congrArg (fun listed => Except.ok (listed.map (·.segment))) all

/-- If the name of its table cannot be given, adding a segment changes nothing. -/
theorem addSegment_of_isTaken (taken : database.isTaken (scope.table segment) = true) :
    ∃ error, scope.addSegment database segment = (.error error, database) := by
  by_cases there : scope.hasSegment database segment = true
  · refine ⟨.conflict (.segmentExists segment.uri segment.id), ?_⟩
    simp only [addSegment, there, if_true]
  · refine ⟨.storage, ?_⟩
    simp [addSegment, there, Statement.createSegment, Database.execInTurn, Database.exec, taken]

section Cataloged

variable (isCataloged : database.IsCataloged scope.settings.tablesStart used entries)
include isCataloged

theorem exists_listSegments : ∃ listed, scope.listSegments database = .ok listed ∧
    listed.Perm (entries.map (·.segment)) :=
  ⟨_, listSegments_eq isCataloged.catalog isCataloged.table_eq isCataloged.table_mem,
    (List.mergeSort_perm _ _).map _⟩

/-- A table without an entry is not listed. -/
theorem listSegments_withSegment (table : String) :
    scope.listSegments (database.withSegment table) = scope.listSegments database := by
  rw [listSegments_eq isCataloged.catalog isCataloged.table_eq isCataloged.table_mem]
  refine listSegments_eq isCataloged.catalog isCataloged.table_eq fun entry listed => ?_
  rw [Database.tableNames_withSegment]
  exact List.mem_append_left _ (isCataloged.table_mem entry listed)

variable (apart : Set.InjOn (TableName.ofUri scope.settings.tablesStart) used)
  (inside : segment.uri ∈ used)
include apart inside

/-- Deleting a segment fails without a change, or nothing is asked for, or its table goes together
with its entry. -/
theorem deleteSegment_cases (withData : Bool) :
    (∃ answer, scope.deleteSegment database segment withData = (answer, database)) ∨
      ∃ next, scope.deleteSegment database segment withData = (.ok (), next) ∧
        next.IsCataloged scope.settings.tablesStart used
          (entries.filter (·.segment.uri != segment.uri)) := by
  by_cases there : scope.hasSegment database segment = true
  · have required : scope.requireTable database segment = .ok (scope.table segment) := if_pos there
    cases withData with
    | false => exact .inl ⟨.ok (), by rw [deleteSegment, required]; rfl⟩
    | true =>
      obtain ⟨records, present⟩ := exists_recordsOf_of_hasSegment there
      have dropped : database.exec (.dropTable (scope.table segment)) =
          .ok (database.drop (scope.table segment)) := by
        rw [Database.exec, present]
        rfl
      have catalog : (database.drop (scope.table segment)).catalog = some entries :=
        isCataloged.catalog
      have removed : (database.drop (scope.table segment)).exec (.catalogRemove segment.uri) =
          .ok ((database.drop (scope.table segment)).cataloging
            (entries.filter (·.segment.uri != segment.uri))) := by
        rw [Database.exec, Database.catalogRows, catalog]
        rfl
      refine .inr ⟨_, ?_, isCataloged.remove apart inside⟩
      simp only [deleteSegment, required, Bool.not_true, Bool.false_eq_true, if_false, dropped,
        removed]
      rfl
  · have required : scope.requireTable database segment =
        .error (.notFound (.segment segment.uri segment.id)) := if_neg there
    exact .inl ⟨_, by rw [deleteSegment, required]⟩

theorem not_mem_uris_of_isTaken (free : database.isTaken (scope.table segment) = false) :
    segment.uri ∉ entries.map (·.segment.uri) := fun known =>
  Database.not_mem_tableNames_of_isTaken free ((isCataloged.mem_uris_iff apart inside).1 known)

/-- If the name of its table can be given, a segment that is added gets the table. It is entered
into the catalog too, unless that knows its id. -/
theorem addSegment_of_free (plain : scope.IsPlain)
    (free : database.isTaken (scope.table segment) = false) :
    scope.addSegment database segment =
      if segment.id ∈ entries.map (·.segment.id) then
        (.error .storage, database.withSegment (scope.table segment))
      else (.ok (), (database.withSegment (scope.table segment)).cataloging
        (entries ++ [⟨segment, scope.table segment⟩])) := by
  have absent : ¬ scope.hasSegment database segment = true := fun there =>
    Database.not_mem_tableNames_of_isTaken free (hasSegment_iff.1 there)
  have created : database.execInTurn (Statement.createSegment (scope.table segment)) =
      (.ok (), database.withSegment (scope.table segment)) :=
    isCataloged.execInTurn_createSegment (plain.indexName segment) free
  have catalog : (database.withSegment (scope.table segment)).catalog = some entries :=
    isCataloged.catalog
  simp only [addSegment, absent, if_false, Bool.false_eq_true, created,
    enter_of_not_mem catalog (not_mem_uris_of_isTaken isCataloged apart inside free)]

end Cataloged

end StoreScope

namespace Store

/-- A store that nobody uses in a transaction, and whose catalog fits its tables. -/
structure IsCataloged (used : Set String) (store : Store) : Prop where
  plain : store.scope.IsPlain
  alone : store.transactions.live = []
  fits : ∃ entries,
    store.database.IsCataloged store.scope.settings.tablesStart used entries

section Alone

variable {store : Store} (alone : store.transactions.live = [])
include alone

theorem keep_of_alone {α : Type} (step : Except Error α × Database) :
    store.keep step = (step.1, { store with database := step.2 }) := by
  simp only [keep, commitDirect, alone, List.any_nil, Bool.false_eq_true, if_false]

theorem addSegment_of_alone (segment : Segment) :
    store.addSegment segment = ((store.scope.addSegment store.database segment).1,
      { store with database := (store.scope.addSegment store.database segment).2 }) := by
  by_cases there : store.scope.hasSegment store.database segment = true
  · simp only [addSegment, StoreScope.addSegment, there, if_true]
  · simp only [addSegment, there, Bool.false_eq_true, if_false, keep_of_alone alone]

theorem deleteSegment_of_alone (segment : Segment) (withData : Bool) :
    store.deleteSegment segment withData =
      ((store.scope.deleteSegment store.database segment withData).1,
        { store with
          database := (store.scope.deleteSegment store.database segment withData).2 }) := by
  cases required : store.scope.requireTable store.database segment with
  | error error => simp only [deleteSegment, StoreScope.deleteSegment, required]
  | ok table =>
    cases withData with
    | false => simp only [deleteSegment, StoreScope.deleteSegment, required]; rfl
    | true => simp only [deleteSegment, required, if_true, keep_of_alone alone]

end Alone

/-- An operation that adds or deletes a segment with a URI of a set, and adds none under the id of a
segment that is listed with another URI. -/
def Operation.IsFresh (used : Set String) (store : Store) : Operation → Prop
  | addSegment segment => segment.uri ∈ used ∧
      ∀ listed, store.scope.listSegments store.database = .ok listed →
        ∀ other ∈ listed, other.id = segment.id → other.uri = segment.uri
  | deleteSegment segment _ => segment.uri ∈ used
  | _ => False

section Steps

variable {store : Store} {used : Set String} (isCataloged : store.IsCataloged used)
  (apart : Set.InjOn (TableName.ofUri store.scope.settings.tablesStart) used)
include isCataloged apart

theorem IsCataloged.after {operation : Operation} (fresh : operation.IsFresh used store) :
    (store.after operation).IsCataloged used := by
  obtain ⟨plain, alone, entries, fits⟩ := isCataloged
  cases operation with
  | addSegment segment =>
    obtain ⟨inside, fresh⟩ := fresh
    rw [Store.after, addSegment_of_alone alone]
    cases free : store.database.isTaken (store.scope.table segment) with
    | true =>
      obtain ⟨error, same⟩ := StoreScope.addSegment_of_isTaken free
      rw [same]
      exact ⟨plain, alone, entries, fits⟩
    | false =>
      have unknown : segment.id ∉ entries.map (·.segment.id) := by
        intro known
        obtain ⟨entry, listed, same⟩ := List.mem_map.1 known
        obtain ⟨segments, ran, perm⟩ := StoreScope.exists_listSegments fits
        have own := fresh segments ran entry.segment
          (perm.mem_iff.2 (List.mem_map_of_mem listed)) same
        exact StoreScope.not_mem_uris_of_isTaken fits apart inside free
          (List.mem_map.2 ⟨entry, listed, own⟩)
      rw [StoreScope.addSegment_of_free fits apart inside plain free, if_neg unknown]
      exact ⟨plain, alone, _, fits.add inside free⟩
  | deleteSegment segment withData =>
    rw [Store.after, deleteSegment_of_alone alone]
    rcases StoreScope.deleteSegment_cases fits apart fresh withData with
      ⟨answer, same⟩ | ⟨next, deleted, left⟩
    · rw [same]
      exact ⟨plain, alone, entries, fits⟩
    · rw [deleted]
      exact ⟨plain, alone, _, left⟩
  | _ => exact fresh.elim

/-- Adding a segment that fails changes nothing, unless its id is that of a segment with another
URI. -/
theorem IsCataloged.eq_of_addSegment {segment : Segment} (inside : segment.uri ∈ used)
    {error : Error} {after : Store} (failed : store.addSegment segment = (.error error, after)) :
    after = store ∨ ∀ listed, store.scope.listSegments store.database = .ok listed →
      ∃ other ∈ listed, other.id = segment.id ∧ other.uri ≠ segment.uri := by
  obtain ⟨plain, alone, entries, fits⟩ := isCataloged
  rw [addSegment_of_alone alone] at failed
  obtain ⟨failed, rfl⟩ := Prod.mk.inj failed
  cases free : store.database.isTaken (store.scope.table segment) with
  | true =>
    obtain ⟨error, same⟩ := StoreScope.addSegment_of_isTaken free
    rw [same]
    exact .inl rfl
  | false =>
    refine .inr fun listed ran => ?_
    obtain ⟨segments, ran', perm⟩ := StoreScope.exists_listSegments fits
    obtain rfl := Except.ok.inj (ran'.symm.trans ran)
    rw [StoreScope.addSegment_of_free fits apart inside plain free] at failed
    split at failed
    next known =>
      obtain ⟨entry, old, same⟩ := List.mem_map.1 known
      exact ⟨entry.segment, perm.mem_iff.2 (List.mem_map_of_mem old), same, fun own =>
        StoreScope.not_mem_uris_of_isTaken fits apart inside free
          (List.mem_map.2 ⟨entry, old, own⟩)⟩
    next => cases failed

theorem IsCataloged.eq_of_deleteSegment {segment : Segment} (inside : segment.uri ∈ used)
    {withData : Bool} {error : Error} {after : Store}
    (failed : store.deleteSegment segment withData = (.error error, after)) : after = store := by
  obtain ⟨plain, alone, entries, fits⟩ := isCataloged
  rw [deleteSegment_of_alone alone] at failed
  obtain ⟨failed, rfl⟩ := Prod.mk.inj failed
  rcases StoreScope.deleteSegment_cases fits apart inside withData with
    ⟨answer, same⟩ | ⟨next, deleted, -⟩
  · rw [same]
  · rw [deleted] at failed
    cases failed

/-- A segment that is added under the id of another one is not entered, but its table stays. -/
theorem IsCataloged.addSegment_of_shared_id {segment other : Segment} {listed : List Segment}
    (inside : segment.uri ∈ used)
    (free : store.database.isTaken (store.scope.table segment) = false)
    (lists : store.scope.listSegments store.database = .ok listed) (member : other ∈ listed)
    (shared : other.id = segment.id) :
    ∃ after, store.addSegment segment = (.error .storage, after) ∧
      store.scope.hasSegment store.database segment = false ∧
      after.scope.hasSegment after.database segment = true ∧
      after.scope.listSegments after.database = .ok listed := by
  obtain ⟨plain, alone, entries, fits⟩ := isCataloged
  have absent : store.scope.hasSegment store.database segment = false := by
    rw [Bool.eq_false_iff, Ne, StoreScope.hasSegment_iff]
    exact Database.not_mem_tableNames_of_isTaken free
  obtain ⟨segments, ran, perm⟩ := StoreScope.exists_listSegments fits
  obtain rfl := Except.ok.inj (ran.symm.trans lists)
  have known : segment.id ∈ entries.map (·.segment.id) := by
    obtain ⟨entry, old, rfl⟩ := List.mem_map.1 (perm.mem_iff.1 member)
    exact List.mem_map.2 ⟨entry, old, shared⟩
  have stays : store.scope.hasSegment
      (store.database.withSegment (store.scope.table segment)) segment = true := by
    rw [StoreScope.hasSegment_iff, Database.tableNames_withSegment]
    exact List.mem_append_right _ List.mem_cons_self
  refine ⟨{ store with database := store.database.withSegment (store.scope.table segment) }, ?_,
    absent, stays, (StoreScope.listSegments_withSegment fits _).trans ran⟩
  rw [addSegment_of_alone alone,
    StoreScope.addSegment_of_free fits apart inside plain free, if_pos known]

end Steps

/-- An empty database has an empty catalog, once that is set up. -/
theorem isCataloged_setUp (start : String) (used : Set String) :
    Database.empty.setUp.2.IsCataloged start used [] where
  catalog := rfl
  known _ listed := by cases listed
  tables := rfl
  distinct := List.nodup_nil
  indexes index listed := .inl (List.mem_singleton.1 listed ▸ rfl)

section Created

variable {config : Configuration} {registry : Registry} {store : Store}
  (created : create config registry = .ok store)
include created

theorem isCataloged_of_create (used : Set String) : store.IsCataloged used := by
  obtain ⟨rfl, plain⟩ := eq_and_isPlain_of_create created
  exact ⟨plain, rfl, [], isCataloged_setUp _ used⟩

theorem listSegments_of_create : store.scope.listSegments store.database = .ok [] := by
  obtain ⟨rfl, -⟩ := eq_and_isPlain_of_create created
  obtain ⟨listed, ran, perm⟩ := StoreScope.exists_listSegments (isCataloged_setUp _ ∅)
  rw [perm.eq_nil] at ran
  exact ran

/-- The first segment of a store is the only one that is listed. -/
theorem addSegment_of_create {segment : Segment}
    (free : store.database.isTaken (store.scope.table segment) = false) :
    (store.addSegment segment).1 = .ok () ∧
      store.scope.listSegments (store.after (.addSegment segment)).database = .ok [segment] := by
  have inside : segment.uri ∈ ({segment.uri} : Set String) := rfl
  have apart := Set.injOn_singleton (TableName.ofUri store.scope.settings.tablesStart) segment.uri
  obtain ⟨plain, alone, -⟩ := isCataloged_of_create created {segment.uri}
  have fits : store.database.IsCataloged store.scope.settings.tablesStart {segment.uri} [] := by
    obtain ⟨rfl, -⟩ := eq_and_isPlain_of_create created
    exact isCataloged_setUp _ _
  have added := (StoreScope.addSegment_of_free fits apart inside plain free).trans
    (if_neg List.not_mem_nil)
  rw [Store.after, addSegment_of_alone alone, added]
  obtain ⟨listed, ran, perm⟩ := StoreScope.exists_listSegments (fits.add inside free)
  rw [List.perm_singleton.1 perm] at ran
  exact ⟨rfl, ran⟩

end Created

/-- However segments are added and deleted in a new store, as long as none is added under the id of
another one and the names of the tables of their URIs differ, exactly those are listed that exist,
each once. Whatever fails changes nothing, except that a segment may be added under the id of
another one. -/
theorem catalog_agrees {config : Configuration} {registry : Registry} {store : Store}
    (created : create config registry = .ok store) {used : Set String}
    (apart : Set.InjOn (TableName.ofUri config.start) used) {operations : List Operation}
    (fresh : store.Along (fun before operation => operation.IsFresh used before) operations) :
    let reached := store.afterAll operations
    ∃ listed, store.scope.listSegments reached.database = .ok listed ∧
      (listed.map (·.uri)).Nodup ∧ (∀ segment ∈ listed, segment.uri ∈ used) ∧
      (∀ segment : Segment, segment.uri ∈ used →
        (segment.uri ∈ listed.map (·.uri) ↔
          store.scope.hasSegment reached.database segment = true)) ∧
      (∀ segment error after, segment.uri ∈ used →
        reached.addSegment segment = (.error error, after) →
          after = reached ∨ ∃ other ∈ listed, other.id = segment.id ∧ other.uri ≠ segment.uri) ∧
      ∀ segment withData error after, segment.uri ∈ used →
        reached.deleteSegment segment withData = (.error error, after) → after = reached := by
  intro reached
  have start : store.scope.settings.tablesStart = config.start := by
    obtain ⟨rfl, -⟩ := eq_and_isPlain_of_create created
    rfl
  rw [← start] at apart
  obtain ⟨scope, isCataloged⟩ : reached.scope = store.scope ∧ reached.IsCataloged used :=
    afterAll_of_along (fun later => later.scope = store.scope ∧ later.IsCataloged used)
      (fun before operation holds fresh => ⟨(before.scope_after operation).trans holds.1,
        holds.2.after (holds.1 ▸ apart) fresh⟩)
      ⟨rfl, isCataloged_of_create created used⟩ fresh
  rw [← scope] at apart ⊢
  obtain ⟨entries, fits⟩ := isCataloged.fits
  obtain ⟨listed, ran, perm⟩ := StoreScope.exists_listSegments fits
  have uris : (listed.map (·.uri)).Perm (entries.map (·.segment.uri)) := by
    have mapped := perm.map (·.uri)
    rwa [List.map_map] at mapped
  refine ⟨listed, ran, uris.nodup_iff.2 fits.nodup_uris, fun segment member => ?_,
    fun segment inside => ?_, fun segment error after inside failed => ?_,
    fun segment withData error after inside failed => ?_⟩
  · obtain ⟨entry, old, rfl⟩ := List.mem_map.1 (perm.mem_iff.1 member)
    exact (fits.known entry old).1
  · rw [uris.mem_iff, StoreScope.hasSegment_iff]
    exact fits.mem_uris_iff apart inside
  · exact (isCataloged.eq_of_addSegment apart inside failed).imp id fun clash => clash listed ran
  · exact isCataloged.eq_of_deleteSegment apart inside failed

/-- Two segments with ids of their own. -/
theorem catalog_agrees_two :
    let first : Segment := ⟨"s", "urn:a"⟩
    let second : Segment := ⟨"t", "urn:b"⟩
    let used : Set String := {"urn:a", "urn:b"}
    let operations : List Operation := [.addSegment first, .addSegment second]
    let store := ofDatabase (.standard "segments.sqlite") .core Database.empty.setUp.2
    create (.standard "segments.sqlite") .core = .ok store ∧
      Set.InjOn (TableName.ofUri (Configuration.standard "segments.sqlite").start) used ∧
      store.Along (fun before operation => operation.IsFresh used before) operations ∧
      ∃ listed, store.scope.listSegments (store.afterAll operations).database = .ok listed ∧
        (listed.map (·.uri)).Nodup ∧
        ∀ segment ∈ [first, second], segment.uri ∈ listed.map (·.uri) ↔
          store.scope.hasSegment (store.afterAll operations).database segment = true := by
  intro first second used operations store
  have created : create (.standard "segments.sqlite") .core = .ok store := create_eq_ok _ rfl
  have apart : Set.InjOn (TableName.ofUri (Configuration.standard "segments.sqlite").start) used :=
    Set.injOn_pair.2 fun same => absurd same (by decide +kernel)
  have unused : store.database.isTaken (store.scope.table first) = false := by decide +kernel
  have lists := (addSegment_of_create created unused).2
  have fresh : store.Along (fun before operation => operation.IsFresh used before) operations := by
    refine ⟨⟨.inl rfl, fun listed ran other member => ?_⟩,
      ⟨.inr rfl, fun listed ran other member same => ?_⟩, trivial⟩
    · obtain rfl := Except.ok.inj ((listSegments_of_create created).symm.trans ran)
      cases member
    · rw [store.scope_after] at ran
      obtain rfl := Except.ok.inj (lists.symm.trans ran)
      obtain rfl := List.mem_singleton.1 member
      exact absurd same (by decide)
  obtain ⟨listed, ran, distinct, -, complete, -⟩ := catalog_agrees created apart fresh
  refine ⟨created, apart, fresh, listed, ran, distinct, fun segment member => complete segment ?_⟩
  rcases List.mem_cons.1 member with rfl | member
  · exact .inl rfl
  · exact .inr (congrArg Segment.uri (List.mem_singleton.1 member))

/-- A segment with the id of another one is not added, but its table is there afterwards, and is
not listed. -/
theorem shared_id_leaves_table :
    let first : Segment := ⟨"s", "urn:a"⟩
    let second : Segment := ⟨"s", "urn:b"⟩
    let store := ofDatabase (.standard "segments.sqlite") .core Database.empty.setUp.2
    create (.standard "segments.sqlite") .core = .ok store ∧
      (store.addSegment first).1 = .ok () ∧
      store.scope.hasSegment (store.after (.addSegment first)).database second = false ∧
      ∃ left, (store.after (.addSegment first)).addSegment second = (.error .storage, left) ∧
        store.scope.hasSegment left.database second = true ∧
        store.scope.listSegments left.database = .ok [first] := by
  intro first second store
  have created : create (.standard "segments.sqlite") .core = .ok store := create_eq_ok _ rfl
  -- One evaluation, so that the names of the tables are worked out once.
  obtain ⟨names, unused, free⟩ :
      TableName.ofUri store.scope.settings.tablesStart first.uri ≠
        TableName.ofUri store.scope.settings.tablesStart second.uri ∧
      store.database.isTaken (store.scope.table first) = false ∧
      (store.after (.addSegment first)).database.isTaken (store.scope.table second) = false := by
    decide +kernel
  have apart : Set.InjOn (TableName.ofUri store.scope.settings.tablesStart)
      {first.uri, second.uri} := Set.injOn_pair.2 fun same => absurd same names
  obtain ⟨added, lists⟩ := addSegment_of_create created unused
  have fresh : (Operation.addSegment first).IsFresh {first.uri, second.uri} store := by
    refine ⟨.inl rfl, fun listed ran other member => ?_⟩
    obtain rfl := Except.ok.inj ((listSegments_of_create created).symm.trans ran)
    cases member
  have scope := store.scope_after (.addSegment first)
  have isCataloged := (isCataloged_of_create created _).after apart fresh
  rw [← scope] at apart free lists
  obtain ⟨left, failed, absent, stays, alike⟩ :=
    isCataloged.addSegment_of_shared_id apart (.inr rfl) free lists List.mem_cons_self rfl
  have kept : left.scope = store.scope := by
    rw [← scope, ← (store.after (.addSegment first)).scope_after (.addSegment second), Store.after,
      failed]
  rw [kept] at stays alike
  rw [scope] at absent
  exact ⟨created, added, absent, left, failed, stays, alike⟩

end Store

end GraphSegments
