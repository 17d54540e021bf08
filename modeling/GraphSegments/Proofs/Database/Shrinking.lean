import GraphSegments.Proofs.Results
import GraphSegments.Store.Segments

/-!
Statements that insert no rows. They leave the tables as they are, create empty ones, drop some, or
take records out of some, so what holds of parts of the tables before holds of the tables after.
-/

namespace GraphSegments
open Results

namespace Database

/-- Every table of a database is empty or a part of one of another database. -/
def IsPartOf (after before : Database) : Prop :=
  ∀ table ∈ after.tables, table.2 = [] ∨ ∃ old ∈ before.tables, table.2.Sublist old.2

theorem isPartOf_of_mem {after before : Database}
    (inside : ∀ table ∈ after.tables, table ∈ before.tables) : after.IsPartOf before :=
  fun table listed => .inr ⟨table, inside table listed, .refl _⟩

theorem isPartOf_of_tables {after before : Database} (same : after.tables = before.tables) :
    after.IsPartOf before :=
  isPartOf_of_mem fun _ listed => same ▸ listed

theorem IsPartOf.refl (database : Database) : database.IsPartOf database := isPartOf_of_tables rfl

theorem IsPartOf.trans {last next first : Database} (later : last.IsPartOf next)
    (earlier : next.IsPartOf first) : last.IsPartOf first := by
  intro table listed
  rcases later table listed with empty | ⟨middle, inside, part⟩
  · exact .inl empty
  · rcases earlier middle inside with empty | ⟨old, there, whole⟩
    · exact .inl (List.sublist_nil.1 (empty ▸ part))
    · exact .inr ⟨old, there, part.trans whole⟩

variable {database next : Database}

/-- The records of a table are those of one of the tables of its name. -/
theorem exists_table_of_recordsOf {table : String} {records : List Record}
    (present : database.recordsOf table = .ok records) :
    ∃ known ∈ database.tables, known.2 = records := by
  unfold recordsOf at present
  split at present
  next found there =>
    obtain rfl := Except.ok.inj present
    obtain ⟨known, first, rfl⟩ := Option.map_eq_some_iff.1 there
    exact ⟨known, List.mem_of_find?_eq_some first, rfl⟩
  next => cases present

/-- Where a table keeps a part of its records, nothing is added. -/
theorem isPartOf_setRecords {table : String} {records kept : List Record}
    (present : database.recordsOf table = .ok records) (part : kept.Sublist records) :
    (database.setRecords table kept).IsPartOf database := by
  intro changed listed
  obtain ⟨known, member, rfl⟩ := List.mem_map.1 listed
  dsimp only
  split
  next =>
    obtain ⟨old, there, rfl⟩ := exists_table_of_recordsOf present
    exact .inr ⟨old, there, part⟩
  next => exact .inr ⟨known, member, .refl _⟩

theorem isPartOf_drop (database : Database) (table : String) :
    (database.drop table).IsPartOf database :=
  isPartOf_of_mem fun _ listed => (List.mem_filter.1 listed).1

theorem tables_addIndex {index : TableIndex} (added : database.addIndex index = .ok next) :
    next.tables = database.tables := by
  unfold addIndex at added
  split at added
  next => cases added
  next =>
    obtain rfl := Except.ok.inj added
    rfl

theorem isPartOf_runCommand {command : SchemaCommand}
    (ran : database.runCommand command = .ok next) : next.IsPartOf database := by
  cases command with
  | createIndex lenient index table columns =>
    simp only [runCommand] at ran
    split at ran
    next => cases ran
    next =>
      split at ran
      next => cases ran
      next =>
        split at ran
        next => exact Except.ok.inj ran ▸ .refl _
        next =>
          split at ran
          next => exact isPartOf_of_tables (tables_addIndex ran)
          next => cases ran
  | dropIndex lenient index =>
    simp only [runCommand] at ran
    split at ran
    next => exact Except.ok.inj ran ▸ isPartOf_of_tables rfl
    next =>
      split at ran
      next => exact Except.ok.inj ran ▸ .refl _
      next => cases ran
  | dropTable lenient table =>
    simp only [runCommand] at ran
    split at ran
    next => exact Except.ok.inj ran ▸ isPartOf_drop _ _
    next =>
      split at ran
      next => exact Except.ok.inj ran ▸ isPartOf_drop database Statement.catalogTable
      next =>
        split at ran
        next => exact Except.ok.inj ran ▸ .refl _
        next => cases ran

theorem isPartOf_runCommands (commands : List (Option SchemaCommand)) (database : Database) :
    (database.runCommands commands).2.IsPartOf database := by
  induction commands generalizing database with
  | nil => exact .refl _
  | cons command rest ih =>
    cases command with
    | none => exact .refl _
    | some command =>
      rw [runCommands]
      cases ran : database.runCommand command with
      | error error => exact .refl _
      | ok next => exact (ih next).trans (isPartOf_runCommand ran)

theorem isPartOf_createIndex (database : Database) (table : String) (column : Column) :
    (database.createIndex table column).2.IsPartOf database := by
  unfold createIndex
  dsimp only
  split
  next => exact isPartOf_runCommands _ _
  next =>
    split
    next => exact .refl _
    next indexed created =>
      obtain ⟨_, -, added⟩ := bind_eq_ok.1 created
      exact isPartOf_of_tables (tables_addIndex added)

end Database

/-- Whether a statement inserts rows. -/
def Statement.inserts : Statement → Bool
  | insertRows _ _ => true
  | _ => false

namespace Database

variable {database next : Database}

/-- Only inserting rows adds records. -/
theorem isPartOf_exec {statement : Statement} (ran : database.exec statement = .ok next)
    (plain : statement.inserts = false) : next.IsPartOf database := by
  cases statement with
  | insertRows table rows => cases plain
  | deleteObjects table uris =>
    obtain ⟨records, present, ran⟩ := bind_eq_ok.1 ran
    exact Except.ok.inj ran ▸ isPartOf_setRecords present List.filter_sublist
  | deleteAll table =>
    obtain ⟨records, present, ran⟩ := bind_eq_ok.1 ran
    exact Except.ok.inj ran ▸ isPartOf_setRecords present (List.nil_sublist _)
  | createTable table =>
    simp only [exec] at ran
    split at ran
    next => cases ran
    next =>
      obtain rfl := Except.ok.inj ran
      intro known listed
      rcases List.mem_append.1 listed with old | new
      · exact .inr ⟨known, old, .refl _⟩
      · exact .inl (List.mem_singleton.1 new ▸ rfl)
  | createIndex table column =>
    obtain ⟨_, -, rfl⟩ := map_eq_ok.1 ran
    exact isPartOf_createIndex _ _ _
  | dropTable table =>
    obtain ⟨_, -, ran⟩ := bind_eq_ok.1 ran
    exact Except.ok.inj ran ▸ isPartOf_drop _ _
  | catalogInsert id uri table createdAt =>
    simp only [exec] at ran
    split at ran
    next => cases ran
    next =>
      split at ran
      next => cases ran
      next => exact Except.ok.inj ran ▸ isPartOf_of_tables rfl
  | catalogRemove uri =>
    obtain ⟨_, -, ran⟩ := bind_eq_ok.1 ran
    exact Except.ok.inj ran ▸ isPartOf_of_tables rfl
  | select _ | countObjects _ | listTables | catalogFind _ | catalogList =>
    exact Except.ok.inj ran ▸ .refl _

theorem isPartOf_execAll {statements : List Statement} (ran : database.execAll statements = .ok next)
    (plain : ∀ statement ∈ statements, statement.inserts = false) : next.IsPartOf database := by
  induction statements generalizing database with
  | nil => exact Except.ok.inj ran ▸ .refl _
  | cons statement rest ih =>
    obtain ⟨here, plain⟩ := List.forall_mem_cons.1 plain
    rw [execAll, List.foldlM_cons] at ran
    obtain ⟨middle, first, others⟩ := bind_eq_ok.1 ran
    exact (ih others plain).trans (isPartOf_exec first here)

theorem isPartOf_execInTurn {statements : List Statement} (database : Database)
    (plain : ∀ statement ∈ statements, statement.inserts = false) :
    (database.execInTurn statements).2.IsPartOf database := by
  fun_induction execInTurn database statements with
  | case1 => exact .refl _
  | case2 database table column rest error left created =>
    have indexed := isPartOf_createIndex database table column
    rwa [created] at indexed
  | case3 database table column rest _ next created ih =>
    have indexed := isPartOf_createIndex database table column
    rw [created] at indexed
    exact (ih fun statement listed => plain statement (List.mem_cons_of_mem _ listed)).trans indexed
  | case4 => exact .refl _
  | case5 database statement rest _ next ran ih =>
    exact (ih fun statement listed => plain statement (List.mem_cons_of_mem _ listed)).trans
      (isPartOf_exec ran (plain statement List.mem_cons_self))

theorem tables_createCatalog (database : Database) :
    database.createCatalog.tables = database.tables := by
  unfold createCatalog
  split <;> rfl

theorem isPartOf_setUp (database : Database) : database.setUp.2.IsPartOf database := by
  unfold setUp
  split
  next => exact .refl _
  next =>
    dsimp only
    split
    next => exact isPartOf_of_tables (tables_createCatalog database)
    next indexed added =>
      exact isPartOf_of_tables ((tables_addIndex added).trans (tables_createCatalog database))

end Database

end GraphSegments
