import Mathlib.Data.Finset.Prod
import GraphSegments.Proofs.Store.Isolation
import GraphSegments.Proofs.Store.Requests
import GraphSegments.Proofs.Table.Names

/-!
Deleting objects takes them out of every table of a pool and leaves everything else as it is, and
what it counts is what was there. A table that comes again has nothing left to count, and neither
has a second call.
-/

namespace GraphSegments
open Results

namespace Record

variable {records : List Record} {uris : List String}

/-- Only those objects matter that there are records of. -/
theorem without_congr {found : List String}
    (mem : ∀ uri, uri ∈ found ↔ uri ∈ uris ∧ Hold records uri) :
    without found records = without uris records := by
  refine List.filter_congr fun record listed => ?_
  have same : record.uri ∈ found ↔ record.uri ∈ uris := by
    rw [mem, and_iff_left ⟨record, listed, rfl⟩]
  rw [Bool.eq_iff_iff]
  simp [same]

theorem without_idem (uris : List String) (records : List Record) :
    without uris (without uris records) = without uris records := by
  simp [without]

end Record

namespace Database

/-- A database has become another one in which some tables hold nothing of some objects, and the
records of all others in their order. All other tables and whatever else there is are as they
were. -/
structure Clears (before after : Database) (tables uris : List String) : Prop where
  cleared : ∀ table ∈ tables, ∀ records, before.recordsOf table = .ok records →
    after.recordsOf table = .ok (Record.without uris records)
  others : ∀ other, (∀ table ∈ tables, sameName other table = false) →
    after.recordsOf other = before.recordsOf other
  names : after.tableNames = before.tableNames
  rest : { after with tables := before.tables } = before

/-- The objects of a list that some tables hold, each with its table. -/
def heldPairs (database : Database) (tables uris : List String) : Finset (String × String) :=
  (tables.toFinset ×ˢ uris.toFinset).filter fun pair => database.holdsObject pair.1 pair.2 = true

variable {database cleared after : Database} {table : String} {tables uris : List String}
  {records : List Record}

theorem mem_heldPairs {pair : String × String} :
    pair ∈ database.heldPairs tables uris ↔
      pair.1 ∈ tables ∧ pair.2 ∈ uris ∧ database.holdsObject pair.1 pair.2 = true := by
  simp [heldPairs, and_assoc]

theorem clears_nil (database : Database) (uris : List String) : database.Clears database [] uris :=
  ⟨fun _ listed => absurd listed List.not_mem_nil, fun _ _ => rfl, rfl, rfl⟩

/-- Taking what a table holds of some objects out of it clears the table of all of them. -/
theorem clears_setRecords {found : List String} (held : database.recordsOf table = .ok records)
    (mem : ∀ uri, uri ∈ found ↔ uri ∈ uris ∧ Record.Hold records uri) :
    database.Clears (database.setRecords table (Record.without found records)) [table] uris where
  cleared := by
    intro known listed old present
    obtain rfl := List.mem_singleton.1 listed
    obtain rfl := Except.ok.inj (held.symm.trans present)
    rw [recordsOf_setRecords held, Record.without_congr mem]
  others other apart :=
    recordsOf_setRecords_of_ne database (apart table (List.mem_singleton_self _)) _
  names := by simp [tableNames, setRecords]
  rest := rfl

/-- A table that holds nothing of some objects is clear of them. -/
theorem clears_self (held : database.recordsOf table = .ok records)
    (none : ∀ uri ∈ uris, ¬ Record.Hold records uri) : database.Clears database [table] uris where
  cleared := by
    intro known listed old present
    obtain rfl := List.mem_singleton.1 listed
    obtain rfl := Except.ok.inj (held.symm.trans present)
    have kept : Record.without [] records = Record.without uris records :=
      Record.without_congr fun uri => ⟨fun inside => absurd inside List.not_mem_nil,
        fun both => absurd both.2 (none uri both.1)⟩
    rw [held, ← kept, Record.without_nil]
  others _ _ := rfl
  names := rfl
  rest := rfl

namespace Clears

/-- Clearing one table after another clears all of them. -/
theorem trans (first : database.Clears cleared [table] uris)
    (later : cleared.Clears after tables uris) (held : database.recordsOf table = .ok records)
    (apart : ∀ other ∈ tables, sameName table other = true → table = other) :
    database.Clears after (table :: tables) uris where
  cleared := by
    have own := first.cleared table (List.mem_singleton_self _) records held
    have mine : after.recordsOf table = .ok (Record.without uris records) := by
      by_cases again : table ∈ tables
      · rw [later.cleared table again _ own, Record.without_idem]
      · rw [later.others table fun other listed => ?_, own]
        exact Bool.eq_false_iff.2 fun same => again (apart other listed same ▸ listed)
    intro known listed old present
    by_cases same : known = table
    · subst same
      obtain rfl := Except.ok.inj (held.symm.trans present)
      exact mine
    · have further := (List.mem_cons.1 listed).resolve_left same
      refine later.cleared known further old ?_
      rw [first.others known fun other one => ?_, present]
      obtain rfl := List.mem_singleton.1 one
      rw [sameName, Bool.eq_false_iff, beq_iff_eq.ne]
      exact fun alike => same (apart known further (by rw [sameName, alike, beq_self_eq_true])).symm
  others other apart := by
    obtain ⟨here, there⟩ := List.forall_mem_cons.1 apart
    rw [later.others other there, first.others other (by simpa using here)]
  names := later.names.trans first.names
  rest := by
    have same : ({ cleared with tables := database.tables } : Database) =
        { after with tables := database.tables } := by
      rw [← later.rest]
    exact same ▸ first.rest

theorem holdsObject_eq_false (clears : database.Clears after tables uris) (listed : table ∈ tables)
    (held : database.recordsOf table = .ok records) {uri : String} (inside : uri ∈ uris) :
    after.holdsObject table uri = false := by
  rw [Bool.eq_false_iff]
  intro holds
  have left := (holdsObject_iff (clears.cleared table listed _ held)).1 holds
  exact (Record.hold_without.1 left).1 inside

/-- What is counted at the first of some tables and at the others afterwards are all pairs. -/
theorem card_heldPairs_cons (clears : database.Clears cleared [table] uris)
    (held : database.recordsOf table = .ok records) {found : List String} (distinct : found.Nodup)
    (mem : ∀ uri, uri ∈ found ↔ uri ∈ uris ∧ Record.Hold records uri)
    (apart : ∀ other ∈ tables, sameName other table = true → other = table) :
    (database.heldPairs (table :: tables) uris).card =
      found.length + (cleared.heldPairs tables uris).card := by
  have gone {uri : String} (inside : uri ∈ uris) : cleared.holdsObject table uri = false :=
    clears.holdsObject_eq_false (List.mem_singleton_self _) held inside
  have others {other : String} (listed : other ∈ tables) (differs : other ≠ table) (uri : String) :
      cleared.holdsObject other uri = database.holdsObject other uri := by
    rw [holdsObject, holdsObject, clears.others other fun known one => ?_]
    obtain rfl := List.mem_singleton.1 one
    exact Bool.eq_false_iff.2 fun same => differs (apart other listed same)
  have split : database.heldPairs (table :: tables) uris =
      found.toFinset.image (Prod.mk table) ∪ cleared.heldPairs tables uris := by
    ext ⟨other, uri⟩
    rw [Finset.mem_union, Finset.mem_image, mem_heldPairs, mem_heldPairs]
    by_cases own : other = table
    · subst own
      simp only [List.mem_cons_self, true_and, holdsObject_iff held, List.mem_toFinset, mem,
        Prod.mk.injEq, exists_eq_right]
      grind
    · simp only [List.mem_cons, own, false_or, Prod.mk.injEq, Ne.symm own, false_and, and_false,
        exists_false]
      refine and_congr_right fun listed => ?_
      rw [others listed own]
  have once : Disjoint (found.toFinset.image (Prod.mk table)) (cleared.heldPairs tables uris) := by
    rw [Finset.disjoint_left]
    intro pair first second
    obtain ⟨uri, -, rfl⟩ := Finset.mem_image.1 first
    obtain ⟨-, inside, holds⟩ := mem_heldPairs.1 second
    exact absurd holds (by simp [gone inside])
  rw [split, Finset.card_union_of_disjoint once,
    Finset.card_image_of_injective _ (Prod.mk_right_injective _),
    List.toFinset_card_of_nodup distinct]

end Clears

end Database

namespace StoreScope

variable {scope : StoreScope} {database : Database}

/-- Deleting from tables one after the other counts what they held, and clears them. -/
theorem exists_clears_deleteFrom (uris : List String) {tables : List (Segment × String)}
    (present : ∀ table ∈ tables, ∃ records, database.recordsOf table.2 = .ok records)
    (apart : ∀ first ∈ tables, ∀ second ∈ tables,
      Database.sameName first.2 second.2 = true → first.2 = second.2) :
    ∃ next, deleteFrom uris tables database =
        .ok ((database.heldPairs (tables.map (·.2)) uris).card, next) ∧
      database.Clears next (tables.map (·.2)) uris := by
  induction tables generalizing database with
  | nil => exact ⟨database, rfl, database.clears_nil uris⟩
  | cons first rest ih =>
    obtain ⟨⟨records, held⟩, others⟩ := List.forall_mem_cons.1 present
    obtain ⟨segment, table⟩ := first
    obtain ⟨found, ran, mem⟩ := exists_stored held uris
    obtain ⟨_, cleared, same, step, left⟩ := deleteFrom_cons held uris segment rest
    obtain rfl := Except.ok.inj (ran.symm.trans same)
    have clears : database.Clears cleared [table] uris := by
      rcases left with ⟨rfl, rfl⟩ | ⟨-, rfl⟩
      · exact Database.clears_self held fun uri inside holds =>
          absurd ((mem uri).2 ⟨inside, holds⟩) List.not_mem_nil
      · exact Database.clears_setRecords held mem
    have kept : ∀ other ∈ rest, ∃ records, cleared.recordsOf other.2 = .ok records := by
      intro other listed
      obtain ⟨old, there⟩ := others other listed
      rcases left with ⟨-, rfl⟩ | ⟨-, rfl⟩
      · exact ⟨old, there⟩
      · exact Database.exists_recordsOf_setRecords there _
    obtain ⟨next, deleted, later⟩ := ih kept fun one first two second =>
      apart one (List.mem_cons_of_mem _ first) two (List.mem_cons_of_mem _ second)
    have own {other : String} (listed : other ∈ rest.map (·.2))
        (same : Database.sameName table other = true ∨ Database.sameName other table = true) :
        table = other := by
      obtain ⟨known, inside, rfl⟩ := List.mem_map.1 listed
      rcases same with same | same
      · exact apart _ List.mem_cons_self _ (List.mem_cons_of_mem _ inside) same
      · exact (apart _ (List.mem_cons_of_mem _ inside) _ List.mem_cons_self same).symm
    refine ⟨next, ?_, clears.trans later held fun other listed same => own listed (.inl same)⟩
    rw [step, deleted, List.map_cons, clears.card_heldPairs_cons held (nodup_of_stored ran) mem
      fun other listed same => (own listed (.inr same)).symm]
    rfl

/-- The tables of the segments of a pool that exist. -/
def tablesOf (scope : StoreScope) (database : Database) (pool : List Segment) : List String :=
  (pool.filter (scope.hasSegment database)).map scope.table

/-- The objects of a list that the segments of a pool hold, each with the URI of its segment. -/
def heldObjects (scope : StoreScope) (database : Database) (pool : List Segment)
    (uris : List String) : Finset (String × String) :=
  (((pool.filter (scope.hasSegment database)).map (·.uri)).toFinset ×ˢ uris.toFinset).filter
    fun pair =>
      database.holdsObject (TableName.ofUri scope.settings.tablesStart pair.1) pair.2 = true

variable {pool : List Segment} {uris : List String}

theorem map_poolTables :
    (scope.poolTables database pool).map (·.2) = scope.tablesOf database pool := by
  simp [poolTables, tablesOf]

theorem mem_tablesOf {table : String} :
    table ∈ scope.tablesOf database pool ↔
      ∃ segment ∈ pool, scope.hasSegment database segment = true ∧ scope.table segment = table := by
  simp [tablesOf, and_assoc]

theorem exists_recordsOf_of_mem_tablesOf {table : String}
    (listed : table ∈ scope.tablesOf database pool) :
    ∃ records, database.recordsOf table = .ok records := by
  obtain ⟨segment, -, there, rfl⟩ := mem_tablesOf.1 listed
  exact exists_recordsOf_of_hasSegment there

/-- Which segments exist goes by the names of the tables. -/
theorem hasSegment_congr {next : Database} (names : next.tableNames = database.tableNames) :
    scope.hasSegment next = scope.hasSegment database := by
  funext segment
  rw [hasSegment, hasSegment, segmentTables, segmentTables, names]

/-- As long as no two segments of a pool have one table, the tables hold as many objects as the
segments. -/
theorem card_heldPairs
    (apart : Set.InjOn (TableName.ofUri scope.settings.tablesStart)
      {uri | ∃ segment ∈ pool, segment.uri = uri}) :
    (database.heldPairs (scope.tablesOf database pool) uris).card =
      (scope.heldObjects database pool uris).card := by
  have image : database.heldPairs (scope.tablesOf database pool) uris =
      (scope.heldObjects database pool uris).image
        (Prod.map (TableName.ofUri scope.settings.tablesStart) id) := by
    ext ⟨table, uri⟩
    simp only [Database.mem_heldPairs, mem_tablesOf, heldObjects, Finset.mem_image,
      Finset.mem_filter, Finset.mem_product, List.mem_toFinset, List.mem_map, List.mem_filter,
      Prod.exists, Prod.map_apply, id_eq, Prod.mk.injEq, StoreScope.table]
    grind
  rw [image]
  refine Finset.card_image_of_injOn fun first one second two same => ?_
  have listed {pair : String × String} (member : pair ∈ scope.heldObjects database pool uris) :
      ∃ segment ∈ pool, segment.uri = pair.1 := by
    have inside := (Finset.mem_product.1 (Finset.mem_filter.1 member).1).1
    obtain ⟨segment, known, named⟩ := List.mem_map.1 (List.mem_toFinset.1 inside)
    exact ⟨segment, (List.mem_filter.1 known).1, named⟩
  obtain ⟨tables, objects⟩ := Prod.mk.inj same
  exact Prod.ext (apart (listed one) (listed two) tables) objects

/-- Deleting objects from a pool counts what its tables held, and clears them. If there was nothing,
nothing changes. -/
theorem exists_clears_deleteBatch (scope : StoreScope) (database : Database) (pool : List Segment)
    (uris : List String) :
    ∃ next, scope.deleteBatch database pool uris =
        .ok ((database.heldPairs (scope.tablesOf database pool) uris).card, next) ∧
      database.Clears next (scope.tablesOf database pool) uris ∧
      (database.heldPairs (scope.tablesOf database pool) uris = ∅ → next = database) := by
  have present : ∀ table ∈ scope.poolTables database pool,
      ∃ records, database.recordsOf table.2 = .ok records :=
    scope.exists_recordsOf_of_poolTables pool
  have named (table : Segment × String) (listed : table ∈ scope.poolTables database pool) :
      ∃ uri, table.2 = TableName.ofUri scope.settings.tablesStart uri := by
    obtain ⟨segment, -, rfl⟩ := List.mem_map.1 listed
    exact ⟨segment.uri, rfl⟩
  obtain ⟨next, deleted, clears⟩ := exists_clears_deleteFrom uris present
    fun first one second two same => by
      obtain ⟨uri, first⟩ := named first one
      obtain ⟨other, second⟩ := named second two
      rw [first, second] at same ⊢
      exact TableName.sameName_ofUri.1 same
  rw [map_poolTables] at deleted clears
  refine ⟨next, deleted, clears, fun none => ?_⟩
  obtain ⟨count, last, ran, unchanged, -⟩ := exists_deleteFrom present uris
  obtain ⟨rfl, rfl⟩ := Prod.mk.inj (Except.ok.inj (deleted.symm.trans ran))
  exact unchanged (Finset.card_eq_zero.2 none)

end StoreScope

namespace Store

/-- Deleting objects from a pool has made one store of another: its segments hold none of them any
more, nothing else has changed, and there is nothing to delete again. -/
structure Deletes (before after : Store) (pool : List Segment) (uris : List String) : Prop where
  clears : before.database.Clears after.database
    (before.scope.tablesOf before.database pool) uris
  rest : { after with database := before.database } = before
  gone : ∀ segment ∈ pool, after.scope.hasSegment after.database segment = true →
    ∀ uri ∈ uris, after.database.holdsObject (after.scope.table segment) uri = false
  again : after.deleteBatch none pool uris = (.ok 0, after)

variable {store : Store} {pool : List Segment} {uris : List String}

theorem deleteBatch_of_nothing
    (nothing : store.database.heldPairs (store.scope.tablesOf store.database pool) uris = ∅) :
    store.deleteBatch none pool uris = (.ok 0, store) := by
  obtain ⟨next, deleted, -⟩ := store.scope.exists_clears_deleteBatch store.database pool uris
  rw [nothing, Finset.card_empty] at deleted
  unfold deleteBatch
  split
  next => rfl
  next =>
    rw [Store.change, directly, deleted]
    rfl

/-- Where there is something to delete, the database is replaced, if it can be. -/
theorem deleteBatch_of_some {count : Nat} {next : Database} (named : uris ≠ [])
    (deleted : store.scope.deleteBatch store.database pool uris = .ok (count, next))
    (some : count ≠ 0) :
    store.deleteBatch none pool uris =
      match store.commitDirect next with
      | .error error => (.error error, store)
      | .ok changed => (.ok count, changed) := by
  rw [deleteBatch, if_neg (by simpa using named), Store.change, directly, deleted]
  exact if_neg (by simpa using some)

/-- Nothing is changed outside of transactions once a live one has looked at the database. -/
theorem commitDirect_of_not_isQuiet (busy : ¬ store.IsQuiet) (next : Database) :
    store.commitDirect next = .error .storage := by
  refine if_pos (by_contra fun unseen => busy fun transaction live => ?_)
  simp only [List.any_eq_true, not_exists, not_and, Bool.not_eq_true, Option.isSome_eq_false_iff,
    Option.isNone_iff_eq_none] at unseen
  exact unseen transaction live

/-- Clearing the tables of a pool is deleting from it. -/
theorem deletes_of_clears {next : Database}
    (clears : store.database.Clears next (store.scope.tablesOf store.database pool) uris) :
    store.Deletes { store with database := next } pool uris := by
  have same : store.scope.hasSegment next = store.scope.hasSegment store.database :=
    StoreScope.hasSegment_congr clears.names
  have tables : store.scope.tablesOf next pool = store.scope.tablesOf store.database pool := by
    rw [StoreScope.tablesOf, same, ← StoreScope.tablesOf]
  have gone : ∀ table ∈ store.scope.tablesOf store.database pool, ∀ uri ∈ uris,
      next.holdsObject table uri = false := by
    intro table listed uri inside
    obtain ⟨records, held⟩ := StoreScope.exists_recordsOf_of_mem_tablesOf listed
    exact clears.holdsObject_eq_false listed held inside
  refine ⟨clears, rfl, fun segment listed there uri inside => ?_, deleteBatch_of_nothing ?_⟩
  · exact gone _ (StoreScope.mem_tablesOf.2 ⟨segment, listed, same ▸ there, rfl⟩) uri inside
  · rw [Finset.eq_empty_iff_forall_notMem]
    intro pair held
    obtain ⟨listed, inside, holds⟩ := Database.mem_heldPairs.1 held
    rw [gone _ (tables ▸ listed) _ inside] at holds
    cases holds

/-- Deleting objects outside of transactions removes exactly what it counts: each object of the list
once for each table of the pool that holds it, whatever is repeated, and nothing else. Where a live
transaction has looked at the database and there is something to delete, it fails and changes
nothing. -/
theorem deletion_is_exact (store : Store) (pool : List Segment) (uris : List String) :
    let held := store.database.heldPairs (store.scope.tablesOf store.database pool) uris
    (store.IsQuiet ∨ held = ∅ →
      ∃ after, store.deleteBatch none pool uris = (.ok held.card, after) ∧
        store.Deletes after pool uris) ∧
      (¬ store.IsQuiet → held ≠ ∅ →
        store.deleteBatch none pool uris = (.error .storage, store)) ∧
      (Set.InjOn (TableName.ofUri store.scope.settings.tablesStart)
          {uri | ∃ segment ∈ pool, segment.uri = uri} →
        held.card = (store.scope.heldObjects store.database pool uris).card) := by
  intro held
  obtain ⟨next, deleted, clears, unchanged⟩ :=
    store.scope.exists_clears_deleteBatch store.database pool uris
  have named (some : held ≠ ∅) : uris ≠ [] := by
    rintro rfl
    exact some (by simp [held, Database.heldPairs])
  have counts (some : held ≠ ∅) : held.card ≠ 0 := fun none => some (Finset.card_eq_zero.1 none)
  refine ⟨fun free => ?_, fun busy some => ?_, StoreScope.card_heldPairs⟩
  · have deletes := deletes_of_clears clears
    by_cases nothing : held = ∅
    · obtain rfl := unchanged nothing
      exact ⟨store, by rw [deleteBatch_of_nothing nothing, nothing]; rfl, deletes⟩
    · refine ⟨_, ?_, deletes⟩
      rw [deleteBatch_of_some (named nothing) deleted (counts nothing),
        commitDirect_of_isQuiet (free.resolve_right nothing)]
  · rw [deleteBatch_of_some (named some) deleted (counts some), commitDirect_of_not_isQuiet busy]

/-- One node of two is deleted, from a pool with a segment that comes twice and one that does not
exist, by a list that names it twice beside one that is held nowhere. -/
theorem deletion_is_exact_repeated :
    let scope : StoreScope := ⟨.core, (Configuration.standard "segments.sqlite").searchSettings⟩
    let segment : Segment := ⟨"s", "urn:s"⟩
    let rows (uri : String) : List Row :=
      ((GraphObject.ofClass uri Vocabulary.nodeClass).toRows .core).toOption.getD []
    let database := Database.ofTable (scope.table segment)
      ((rows "urn:a" ++ rows "urn:b").map .ofRow)
    let store : Store := ⟨scope, database, ⟨4, 1, [⟨"tx0", none⟩], []⟩⟩
    let pool : List Segment := [segment, ⟨"t", "urn:t"⟩, segment]
    let uris := ["urn:a", "urn:c", "urn:a"]
    ∃ after, store.deleteBatch none pool uris = (.ok 1, after) ∧
      after.database.recordsOf (scope.table segment) = .ok ((rows "urn:b").map .ofRow) ∧
      after.deleteBatch none pool uris = (.ok 0, after) := by
  intro scope segment rows database store pool uris
  have quiet : store.IsQuiet := by
    intro transaction live
    obtain rfl := List.mem_singleton.1 live
    rfl
  obtain ⟨count, there, others⟩ :
      (database.heldPairs (scope.tablesOf database pool) uris).card = 1 ∧
        scope.table segment ∈ scope.tablesOf database pool ∧
        (rows "urn:a" ++ rows "urn:b").filter (fun row => !uris.contains row.uri) =
          rows "urn:b" := by
    decide +kernel
  obtain ⟨after, deleted, deletes⟩ := (deletion_is_exact store pool uris).1 (.inl quiet)
  refine ⟨after, by rw [deleted, count], ?_, deletes.again⟩
  rw [deletes.clears.cleared _ there _ (Database.recordsOf_ofTable _ _), Record.without,
    List.filter_map, ← others]
  rfl

/-- While a live transaction has written, a node that is there is not deleted. -/
theorem busy_database_is_not_changed :
    let scope : StoreScope := ⟨.core, (Configuration.standard "segments.sqlite").searchSettings⟩
    let segment : Segment := ⟨"s", "urn:s"⟩
    let records := (((GraphObject.ofClass "urn:a" Vocabulary.nodeClass).toRows .core).toOption.getD
      []).map Record.ofRow
    let database := Database.ofTable (scope.table segment) records
    let store : Store := ⟨scope, database, ⟨4, 1, [⟨"tx0", some ⟨database, true⟩⟩], []⟩⟩
    (scope.heldObjects database [segment] ["urn:a"]).card = 1 ∧
      store.deleteBatch none [segment] ["urn:a"] = (.error .storage, store) := by
  intro scope segment records database store
  obtain ⟨objects, held⟩ : (scope.heldObjects database [segment] ["urn:a"]).card = 1 ∧
      (database.heldPairs (scope.tablesOf database [segment]) ["urn:a"]).card = 1 := by
    decide +kernel
  have busy : ¬ store.IsQuiet := fun quiet => by cases quiet _ (List.mem_singleton_self _)
  obtain ⟨next, deleted, -⟩ := scope.exists_clears_deleteBatch database [segment] ["urn:a"]
  rw [held] at deleted
  refine ⟨objects, ?_⟩
  rw [deleteBatch_of_some (List.cons_ne_nil _ _) deleted Nat.one_ne_zero,
    commitDirect_of_not_isQuiet busy]

end Store

end GraphSegments
