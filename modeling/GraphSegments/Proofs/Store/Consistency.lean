import GraphSegments.Proofs.Database.Saving
import GraphSegments.Proofs.Database.Shrinking
import GraphSegments.Proofs.Store.Changes
import GraphSegments.Proofs.Table.Cardinality

/-!
What the tables of a store hold. Where every batch that is saved names each of its objects once,
and the properties of each object that come together agree, every property of an object has either
one single row or rows that are all multi-valued, and all rows of an object repeat the same of it.
-/

namespace GraphSegments
open Results

namespace Row

/-- All rows of an object repeat the same of it. -/
def Repeat (rows : List Row) : Prop :=
  ∀ a ∈ rows, ∀ b ∈ rows, a.uri = b.uri →
    a.vitaltype = b.vitaltype ∧ a.tstamp = b.tstamp ∧ a.channel = b.channel

/-- A property of an object has one single row, or rows that are all multi-valued. -/
def AreEither (rows : List Row) (uri name : String) : Prop :=
  (∃ row, (rows.filter fun row => row.uri == uri && row.name == name) = [row] ∧
    row.multi = false) ∨
  ∀ row ∈ rows, row.uri = uri → row.name = name → row.multi = true

/-- In coherent rows no property is both single and multi-valued, or single twice. -/
theorem Coherent.areEither {rows : List Row} (coherent : Coherent rows) (uri name : String) :
    AreEither rows uri name := by
  have part := coherent.filter fun row => row.uri == uri && row.name == name
  have inside {row : Row} : row ∈ (rows.filter fun row => row.uri == uri && row.name == name) ↔
      row ∈ rows ∧ row.uri = uri ∧ row.name = name := by simp
  unfold AreEither
  cases held : rows.filter fun row => row.uri == uri && row.name == name with
  | nil =>
    right
    intro row listed mine named
    exact absurd (held ▸ inside.2 ⟨listed, mine, named⟩) List.not_mem_nil
  | cons first rest =>
    rw [held] at part inside
    obtain ⟨-, firstMine, firstNamed⟩ := inside.1 List.mem_cons_self
    obtain ⟨alike, -⟩ := List.pairwise_cons.1 part
    cases rest with
    | nil =>
      cases multi : first.multi with
      | false => exact .inl ⟨first, rfl, multi⟩
      | true =>
        right
        intro row listed mine named
        rw [List.mem_singleton.1 (inside.2 ⟨listed, mine, named⟩), multi]
    | cons second others =>
      right
      intro row listed mine named
      rcases List.mem_cons.1 (inside.2 ⟨listed, mine, named⟩) with rfl | later
      · obtain ⟨-, secondMine, secondNamed⟩ := inside.1 (List.mem_cons_of_mem _ List.mem_cons_self)
        exact (alike second List.mem_cons_self (mine.trans secondMine.symm)
          (named.trans secondNamed.symm)).1
      · exact (alike row later (firstMine.trans mine.symm) (firstNamed.trans named.symm)).2

end Row

/-- Records of rows that are coherent and repeat the same of their objects. -/
def Record.AreSound (records : List Record) : Prop :=
  ∃ rows : List Row, records = rows.map Record.ofRow ∧ Row.Coherent rows ∧ Row.Repeat rows

namespace Record

theorem AreSound.sublist {records part : List Record} (sound : AreSound records)
    (inside : part.Sublist records) : AreSound part := by
  obtain ⟨rows, rfl, coherent, repeated⟩ := sound
  obtain ⟨some, kept, rfl⟩ := List.sublist_map_iff.1 inside
  exact ⟨some, rfl, coherent.sublist kept, fun a first b second =>
    repeated a (kept.subset first) b (kept.subset second)⟩

/-- Records of some objects may follow those of all others. -/
theorem AreSound.append {records : List Record} (sound : AreSound records) {rows : List Row}
    (coherent : Row.Coherent rows) (repeated : Row.Repeat rows) {uris : List String}
    (named : ∀ row ∈ rows, row.uri ∈ uris) :
    AreSound (without uris records ++ rows.map ofRow) := by
  have fewer : (without uris records).Sublist records := List.filter_sublist
  obtain ⟨old, same, oldCoherent, oldRepeated⟩ := sound.sublist fewer
  have apart : ∀ row ∈ old, row.uri ∉ uris := by
    intro row listed
    have kept : ofRow row ∈ without uris records := same ▸ List.mem_map_of_mem listed
    simpa [ofRow] using (List.mem_filter.1 kept).2
  refine ⟨old ++ rows, by rw [same, List.map_append], ?_, ?_⟩
  · refine List.pairwise_append.2 ⟨oldCoherent, coherent, fun a first b second alike => ?_⟩
    exact absurd (alike ▸ named b second) (apart a first)
  · intro a first b second alike
    rcases List.mem_append.1 first with first | first <;>
      rcases List.mem_append.1 second with second | second
    · exact oldRepeated a first b second alike
    · exact absurd (alike ▸ named b second) (apart a first)
    · exact absurd (alike ▸ named a first) (apart b second)
    · exact repeated a first b second alike

end Record

namespace GraphObject

/-- Objects that can be saved together: none twice, and each with properties that agree where they
come together. -/
structure AreUnambiguous (objects : List GraphObject) : Prop where
  distinct : (objects.map (·.uri)).Nodup
  each : ∀ object ∈ objects, object.IsUnambiguous

theorem repeat_allToRows {registry : Registry} {objects : List GraphObject} {rows : List Row}
    (distinct : (objects.map (·.uri)).Nodup)
    (written : allToRows registry objects = .ok rows) : Row.Repeat rows := by
  intro a first b second alike
  obtain ⟨object, listed, own, wrote, inside⟩ := (mem_allToRows written).1 first
  obtain ⟨object', listed', own', wrote', inside'⟩ := (mem_allToRows written).1 second
  obtain ⟨uri, vitaltype, tstamp, channel⟩ := repeated_of_mem_toRows wrote inside
  obtain ⟨uri', vitaltype', tstamp', channel'⟩ := repeated_of_mem_toRows wrote' inside'
  obtain rfl : object = object' := List.inj_on_of_nodup_map distinct listed listed'
    (uri.symm.trans (alike.trans uri'))
  exact ⟨vitaltype.trans vitaltype'.symm, tstamp.trans tstamp'.symm, channel.trans channel'.symm⟩

end GraphObject

namespace Database

/-- All tables hold sound records. -/
def IsSound (database : Database) : Prop :=
  ∀ table ∈ database.tables, Record.AreSound table.2

theorem IsSound.part {before after : Database} (sound : before.IsSound)
    (part : after.IsPartOf before) : after.IsSound := by
  intro table listed
  rcases part table listed with empty | ⟨old, there, inside⟩
  · exact empty ▸ ⟨[], rfl, .nil, by simp [Row.Repeat]⟩
  · exact (sound old there).sublist inside

theorem IsSound.setRecords {database : Database} (sound : database.IsSound) (table : String)
    {records : List Record} (fits : Record.AreSound records) :
    (database.setRecords table records).IsSound := by
  intro changed listed
  obtain ⟨known, member, rfl⟩ := List.mem_map.1 listed
  dsimp only
  split
  next => exact fits
  next => exact sound known member

end Database

namespace StoreScope

variable {scope : StoreScope} {database next : Database}

theorem isSound_save {target : Segment} {objects : List GraphObject} {pool : List Segment}
    (sound : database.IsSound) (unambiguous : GraphObject.AreUnambiguous objects)
    (some : objects ≠ []) (saved : scope.save database target objects pool = .ok next) :
    next.IsSound := by
  obtain ⟨records, rows, -, present, written, rfl⟩ := save_eq_ok some saved
  obtain ⟨known, there, rfl⟩ := Database.exists_table_of_recordsOf present
  apply sound.setRecords
  apply (sound known there).append
    (GraphObject.coherent_allToRows unambiguous.distinct unambiguous.each written)
    (GraphObject.repeat_allToRows unambiguous.distinct written)
  intro row listed
  obtain ⟨object, member, own, wrote, inside⟩ := (GraphObject.mem_allToRows written).1 listed
  rw [(GraphObject.repeated_of_mem_toRows wrote inside).1]
  exact List.mem_map_of_mem member

theorem isPartOf_deleteFrom {uris : List String} {tables : List (Segment × String)} {count : Nat}
    (deleted : deleteFrom uris tables database = .ok (count, next)) : next.IsPartOf database := by
  induction tables generalizing database count with
  | nil => exact (Prod.mk.inj (Except.ok.inj deleted)).2 ▸ .refl _
  | cons table rest ih =>
    obtain ⟨found, -, deleted⟩ := bind_eq_ok.1 deleted
    have later {cleared : Database} (part : cleared.IsPartOf database)
        (deleted : (deleteFrom uris rest cleared >>= fun others =>
          pure (found.length + others.1, others.2)) = Except.ok (count, next)) :
        next.IsPartOf database := by
      obtain ⟨others, ran, deleted⟩ := bind_eq_ok.1 deleted
      obtain ⟨-, rfl⟩ := Prod.mk.inj (Except.ok.inj deleted)
      exact (ih ran).trans part
    dsimp only at deleted
    split at deleted
    next => exact later (.refl _) deleted
    next =>
      obtain ⟨cleared, cleaned, deleted⟩ := bind_eq_ok.1 deleted
      refine later (Database.isPartOf_execAll cleaned fun statement listed => ?_) deleted
      obtain ⟨part, -, rfl⟩ := List.mem_map.1 listed
      rfl

theorem isPartOf_deleteAll {segment : Segment}
    (deleted : scope.deleteAll database segment = .ok next) : next.IsPartOf database := by
  obtain ⟨table, -, ran⟩ := bind_eq_ok.1 deleted
  exact Database.isPartOf_exec ran rfl

theorem isPartOf_enter (segment : Segment) (table : String) (database : Database) :
    (enter segment table database).2.IsPartOf database := by
  unfold enter
  split
  next => exact .refl _
  next stale _ =>
    dsimp only
    split
    next => exact .refl _
    next cleared removed =>
      have clearing : cleared.IsPartOf database := by
        split at removed
        next => exact Database.isPartOf_exec removed rfl
        next => exact Except.ok.inj removed ▸ .refl _
      split
      next => exact clearing
      next entered inserted => exact (Database.isPartOf_exec inserted rfl).trans clearing

theorem isPartOf_addSegment (scope : StoreScope) (database : Database) (segment : Segment) :
    (scope.addSegment database segment).2.IsPartOf database := by
  have created :
      (database.execInTurn (Statement.createSegment (scope.table segment))).2.IsPartOf database :=
    Database.isPartOf_execInTurn database (by simp [Statement.createSegment, Statement.inserts])
  unfold addSegment
  dsimp only
  split
  next => exact .refl _
  next =>
    split
    next error next ran => exact (congrArg Prod.snd ran) ▸ created
    next next ran =>
      rw [ran] at created
      exact (isPartOf_enter segment _ next).trans created

theorem isPartOf_deleteSegment (scope : StoreScope) (database : Database) (segment : Segment)
    (withData : Bool) : (scope.deleteSegment database segment withData).2.IsPartOf database := by
  unfold deleteSegment
  split
  next => exact .refl _
  next table _ =>
    split
    next => exact .refl _
    next =>
      split
      next => exact .refl _
      next dropped ran =>
        have part := Database.isPartOf_exec ran rfl
        split
        next => exact part
        next removed cleared => exact (Database.isPartOf_exec cleared rfl).trans part

end StoreScope

namespace Store

/-- What a user of a store does. Changes are made directly, or in a transaction that is named. -/
inductive Operation where
  | save (transaction : Option String) (target : Segment) (objects : List GraphObject)
      (pool : List Segment)
  | deleteBatch (transaction : Option String) (pool : List Segment) (uris : List String)
  | deleteAll (segment : Segment)
  | addSegment (segment : Segment)
  | deleteSegment (segment : Segment) (withData : Bool)
  | createTransaction
  | commitTransaction (id : String)
  | rollbackTransaction (id : String)
  | close

/-- The store after an operation, whether that succeeds or not. -/
def after (store : Store) : Operation → Store
  | .save transaction target objects pool => (store.save transaction target objects pool).2
  | .deleteBatch transaction pool uris => (store.deleteBatch transaction pool uris).2
  | .deleteAll segment => (store.deleteAll segment).2
  | .addSegment segment => (store.addSegment segment).2
  | .deleteSegment segment withData => (store.deleteSegment segment withData).2
  | .createTransaction => store.createTransaction.2
  | .commitTransaction id => (store.commitTransaction id).2
  | .rollbackTransaction id => (store.rollbackTransaction id).2
  | .close => store.close

/-- The store after several operations. -/
def afterAll (store : Store) (operations : List Operation) : Store := operations.foldl after store

/-- Whether an operation saves nothing but objects that can be saved together. -/
def Operation.IsUnambiguous : Operation → Prop
  | save _ _ objects _ => GraphObject.AreUnambiguous objects
  | _ => True

/-- The tables are sound for everybody: outside of transactions and in each of them. -/
structure IsSound (store : Store) : Prop where
  shared : store.database.IsSound
  own : ∀ transaction ∈ store.transactions.live, ∀ work ∈ transaction.work, work.database.IsSound

section Steps

variable {store : Store} (sound : store.IsSound)
include sound

theorem IsSound.keep {α : Type} {step : Except Error α × Database} (next : step.2.IsSound) :
    (store.keep step).2.IsSound := by
  unfold Store.keep
  split
  next kept committed =>
    unfold commitDirect at committed
    split at committed
    next => cases committed
    next => exact Except.ok.inj committed ▸ ⟨next, sound.own⟩
  next => exact sound

theorem IsSound.leaving (id : String) {work : Work} (fits : work.database.IsSound) :
    (store.leaving id work).IsSound := by
  refine ⟨sound.shared, fun transaction listed own mine => ?_⟩
  obtain ⟨known, member, rfl⟩ := List.mem_map.1 listed
  split at mine
  next => exact Option.some.inj mine ▸ fits
  next => exact sound.own known member own mine

theorem IsSound.seen {id : String} {work : Option Work}
    (live : store.transactions.get id = .ok work) : (store.seen work).database.IsSound := by
  obtain ⟨transaction, listed, rfl⟩ := Transactions.exists_of_get live
  cases own : transaction.work with
  | none => exact sound.shared
  | some work => exact sound.own transaction listed work own

/-- A change that keeps the tables sound does so outside of transactions and within one. -/
theorem IsSound.change {α : Type} (id : Option String) {change : Change α}
    (keeps : ∀ database value next wrote, database.IsSound →
      change database = .ok (value, next, wrote) → next.IsSound) :
    (store.change id change).2.IsSound := by
  cases id with
  | none =>
    rw [Store.change]
    rcases store.directly_cases change with ⟨error, made⟩ | ⟨value, next, wrote, done, made⟩
    · rw [made]
      exact sound
    · rw [made]
      cases wrote with
      | false => exact sound
      | true => exact ⟨keeps _ _ _ _ sound.shared done, sound.own⟩
  | some id =>
    rw [Store.change]
    rcases store.within_cases id change with
      ⟨error, made⟩ | ⟨work, live, ⟨error, made⟩ | ⟨value, next, wrote, done, made⟩⟩
    · rw [made]
      exact sound
    · rw [made]
      exact sound.leaving id (sound.seen live)
    · rw [made]
      exact sound.leaving id (keeps _ _ _ _ (sound.seen live) done)

theorem IsSound.withTransactions {transactions : Transactions (Option Work)}
    (fewer : ∀ transaction ∈ transactions.live,
      transaction ∈ store.transactions.live ∨ transaction.work = none) :
    IsSound { store with transactions } := by
  refine ⟨sound.shared, fun transaction listed work own => ?_⟩
  rcases fewer transaction listed with known | new
  · exact sound.own transaction known work own
  · rw [new] at own
    cases own

/-- Every operation keeps the tables sound. -/
theorem IsSound.after {operation : Operation} (unambiguous : operation.IsUnambiguous) :
    (store.after operation).IsSound := by
  cases operation with
  | save transaction target objects pool =>
    simp only [Store.after, Store.save]
    split
    next => exact sound
    next some =>
      refine sound.change transaction fun database value next wrote fits changed => ?_
      obtain ⟨saved, ran, same⟩ := bind_eq_ok.1 changed
      obtain ⟨-, rfl, -⟩ : _ ∧ saved = next ∧ _ := by simpa using Except.ok.inj same
      exact StoreScope.isSound_save fits unambiguous (by simpa using some) ran
  | deleteBatch transaction pool uris =>
    simp only [Store.after, Store.deleteBatch]
    split
    next => exact sound
    next =>
      refine sound.change transaction fun database value next wrote fits changed => ?_
      obtain ⟨⟨count, cleared⟩, ran, same⟩ := bind_eq_ok.1 changed
      obtain ⟨-, rfl, -⟩ : _ ∧ cleared = next ∧ _ := by simpa using Except.ok.inj same
      exact fits.part (StoreScope.isPartOf_deleteFrom ran)
  | deleteAll segment =>
    refine sound.change none fun database value next wrote fits changed => ?_
    obtain ⟨cleared, ran, same⟩ := bind_eq_ok.1 changed
    obtain ⟨rfl, -⟩ : cleared = next ∧ _ := by simpa using Except.ok.inj same
    exact fits.part (StoreScope.isPartOf_deleteAll ran)
  | addSegment segment =>
    simp only [Store.after, Store.addSegment]
    split
    next => exact sound
    next => exact sound.keep (sound.shared.part (StoreScope.isPartOf_addSegment _ _ _))
  | deleteSegment segment withData =>
    simp only [Store.after, Store.deleteSegment]
    split
    next => exact sound
    next =>
      split
      next => exact sound.keep (sound.shared.part (StoreScope.isPartOf_deleteSegment _ _ _ _))
      next => exact sound
  | createTransaction =>
    simp only [Store.after, Store.createTransaction]
    split
    next => exact sound
    next id transactions created =>
      unfold Transactions.create at created
      split at created
      next => cases created
      next =>
        obtain ⟨-, rfl⟩ := Prod.mk.inj (Except.ok.inj created)
        refine sound.withTransactions fun transaction listed => ?_
        rcases List.mem_append.1 listed with known | new
        · exact .inl known
        · exact .inr (List.mem_singleton.1 new ▸ rfl)
  | commitTransaction id =>
    simp only [Store.after, Store.commitTransaction]
    split
    next => exact sound
    next work transactions taken =>
      obtain ⟨found, rfl⟩ := Transactions.take_eq_ok taken
      obtain ⟨transaction, live, rfl⟩ := Transactions.exists_of_get found
      have ended : IsSound { store with transactions := store.transactions.remove id } :=
        sound.withTransactions fun _ listed => .inl (List.mem_filter.1 listed).1
      split
      next next work =>
        split
        next => exact ended
        next => exact ⟨sound.own transaction live _ work, ended.own⟩
      next => exact ended
  | rollbackTransaction id =>
    simp only [Store.after, Store.rollbackTransaction]
    split
    next => exact sound
    next work transactions taken =>
      obtain ⟨-, rfl⟩ := Transactions.take_eq_ok taken
      exact sound.withTransactions fun _ listed => .inl (List.mem_filter.1 listed).1
  | close =>
    exact sound.withTransactions fun transaction listed => absurd listed List.not_mem_nil

end Steps

theorem IsSound.afterAll {store : Store} (sound : store.IsSound) {operations : List Operation}
    (unambiguous : ∀ operation ∈ operations, operation.IsUnambiguous) :
    (store.afterAll operations).IsSound := by
  induction operations generalizing store with
  | nil => exact sound
  | cons operation rest ih =>
    obtain ⟨here, later⟩ := List.forall_mem_cons.1 unambiguous
    exact ih (sound.after here) later

/-- A new store is one on a database that has been set up. -/
theorem create_eq_ok {config : Configuration} (registry : Registry)
    (valid : config.validate = .ok ()) :
    create config registry = .ok (ofDatabase config registry Database.empty.setUp.2) := by
  rw [create, openOn, valid]
  rfl

/-- A new store has no tables. -/
theorem isSound_of_create {config : Configuration} {registry : Registry} {store : Store}
    (created : create config registry = .ok store) : store.IsSound := by
  have nothing : Database.empty.IsSound := fun _ listed => absurd listed List.not_mem_nil
  have prepared : Database.empty.setUp.2.IsSound := nothing.part (Database.isPartOf_setUp _)
  unfold create openOn at created
  split at created
  next => cases created
  next =>
    have made : (Database.empty.setUp.1.map fun _ =>
        ofDatabase config registry Database.empty.setUp.2) = .ok store := created
    obtain ⟨_, -, rfl⟩ := map_eq_ok.1 made
    exact ⟨prepared, fun _ listed => absurd listed List.not_mem_nil⟩

/-- However a store is used, as long as no batch names an object twice or holds properties that
come together without agreeing, its tables hold the records of rows in which every property of an
object is either single or multi-valued, and in which all rows of an object repeat the same of
it. -/
theorem exists_consistent_rows {config : Configuration} {registry : Registry} {store : Store}
    (created : create config registry = .ok store) {operations : List Operation}
    (unambiguous : ∀ operation ∈ operations, operation.IsUnambiguous) :
    ∀ table ∈ (store.afterAll operations).database.tables, ∃ rows : List Row,
      table.2 = rows.map Record.ofRow ∧ (∀ uri name, Row.AreEither rows uri name) ∧
        Row.Repeat rows := by
  intro table listed
  obtain ⟨rows, same, coherent, repeated⟩ :=
    ((isSound_of_create created).afterAll unambiguous).shared table listed
  exact ⟨rows, same, coherent.areEither, repeated⟩

/-- A node is saved twice, the second time with another property. -/
theorem exists_consistent_rows_rewritten :
    let segment : Segment := ⟨"s", "urn:s"⟩
    let long : GraphObject := (GraphObject.ofClass "urn:a" Vocabulary.nodeClass).set "urn:tags"
      (.multi [.string "x", .string "y"])
    let short : GraphObject := (GraphObject.ofClass "urn:a" Vocabulary.nodeClass).set
      Vocabulary.hasTimestamp (.single (.long 7))
    let operations : List Operation :=
      [.addSegment segment, .save none segment [long] [segment],
        .save none segment [short] [segment]]
    let store := ofDatabase (.standard "segments.sqlite") .core Database.empty.setUp.2
    create (.standard "segments.sqlite") .core = .ok store ∧
      (store.afterAll operations).database.tables.map (·.2.map (·.name)) =
        [[Vocabulary.vitaltype, Vocabulary.types, Vocabulary.uriProperty, Vocabulary.hasTimestamp,
          Vocabulary.hasOntologyIri, Vocabulary.hasVersionIri]] ∧
      ∀ table ∈ (store.afterAll operations).database.tables, ∃ rows : List Row,
        table.2 = rows.map Record.ofRow ∧ (∀ uri name, Row.AreEither rows uri name) ∧
          Row.Repeat rows := by
  intro segment long short operations store
  have first : GraphObject.AreUnambiguous [long] := ⟨by decide, by decide +kernel⟩
  have second : GraphObject.AreUnambiguous [short] := ⟨by decide, by decide +kernel⟩
  have unambiguous : ∀ operation ∈ operations, operation.IsUnambiguous := by
    intro operation listed
    simp only [operations, List.mem_cons, List.not_mem_nil, or_false] at listed
    rcases listed with rfl | rfl | rfl
    · trivial
    · exact first
    · exact second
  have created : create (.standard "segments.sqlite") .core = .ok store := create_eq_ok _ rfl
  exact ⟨created, by decide +kernel, exists_consistent_rows created unambiguous⟩

/-- Two records that hold a single value of one property are of no consistent rows. -/
theorem not_areEither_of_twice {rows : List Row} {uri name : String} {kind : ValueKind}
    (twice : 1 < ((rows.map Record.ofRow).filter fun record =>
      record.uri == uri && record.name == name && record.value kind false != .null).length) :
    ¬ Row.AreEither rows uri name := by
  have single (row : Row) (filled : (Record.ofRow row).value kind false ≠ .null) :
      row.multi = false := by
    have cell : (Record.ofRow row).cell (.value kind false) ≠ .null := filled
    rw [Record.cell_value] at cell
    split at cell
    next same => exact same.2.symm
    next => exact absurd rfl cell
  have held : (rows.map Record.ofRow).filter (fun record =>
      record.uri == uri && record.name == name && record.value kind false != .null) =
        ((rows.filter fun row => row.uri == uri && row.name == name).filter fun row =>
          (Record.ofRow row).value kind false != .null).map Record.ofRow := by
    rw [List.filter_map, List.filter_filter]
    congr 1
    apply List.filter_congr
    intro row _
    simp only [Function.comp_apply, Record.ofRow, Bool.and_comm]
  rw [held, List.length_map] at twice
  rintro (⟨row, alone, -⟩ | multi)
  · rw [alone] at twice
    exact absurd twice (Nat.not_lt.2 (List.length_filter_le _ _))
  · obtain ⟨row, listed⟩ := List.exists_mem_of_length_pos (Nat.lt_trans Nat.zero_lt_one twice)
    obtain ⟨inside, filled⟩ := List.mem_filter.1 listed
    obtain ⟨member, mine⟩ := List.mem_filter.1 inside
    obtain ⟨rfl, rfl⟩ : row.uri = uri ∧ row.name = name := by simpa using mine
    exact absurd (multi row member rfl rfl) (by simp [single row (by simpa using filled)])

/-- A batch that names a node twice is saved, and leaves two single rows of each of its
properties. -/
theorem repeated_object_splits_rows :
    let segment : Segment := ⟨"s", "urn:s"⟩
    let node : GraphObject := GraphObject.ofClass "urn:a" Vocabulary.nodeClass
    let store := ofDatabase (.standard "segments.sqlite") .core Database.empty.setUp.2
    create (.standard "segments.sqlite") .core = .ok store ∧
      (store.addSegment segment).1 = .ok () ∧
      ((store.after (.addSegment segment)).save none segment [node, node] [segment]).1 =
        .ok [node, node] ∧
      ∃ table ∈ (store.afterAll
          [.addSegment segment, .save none segment [node, node] [segment]]).database.tables,
        ¬ ∃ rows : List Row, table.2 = rows.map Record.ofRow ∧
          (∀ uri name, Row.AreEither rows uri name) ∧ Row.Repeat rows := by
  intro segment node store
  refine ⟨create_eq_ok _ rfl, eq_ok_of_toOption (by decide +kernel),
    eq_ok_of_toOption (by decide +kernel), ?_⟩
  have twice : (store.afterAll [.addSegment segment,
      .save none segment [node, node] [segment]]).database.tables.any (fun table =>
        decide (1 < (table.2.filter fun record => record.uri == "urn:a" &&
          record.name == Vocabulary.vitaltype && record.value .uri false != .null).length)) =
      true := by decide +kernel
  obtain ⟨table, listed, twice⟩ := List.any_eq_true.1 twice
  refine ⟨table, listed, fun consistent => ?_⟩
  obtain ⟨rows, same, either, -⟩ := consistent
  rw [same] at twice
  exact not_areEither_of_twice (of_decide_eq_true twice) (either _ _)

end Store

end GraphSegments
