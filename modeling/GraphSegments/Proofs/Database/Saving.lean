import GraphSegments.Proofs.Search.Columns
import GraphSegments.Store.Objects

/-!
Saving objects leaves in their table the records of all other objects, in their order, and after
them the rows of the objects saved, however many statements that takes.
-/

namespace GraphSegments
open Results

namespace Statement

variable {α : Type}

theorem flatten_chunksWithin {size steps : Nat} {items : List α} (positive : 0 < size)
    (enough : items.length ≤ steps) : (chunksWithin size steps items).flatten = items := by
  induction steps generalizing items with
  | zero => simp [chunksWithin, List.length_eq_zero_iff.1 (Nat.le_zero.1 enough)]
  | succ steps ih =>
    cases items with
    | nil => rfl
    | cons first rest =>
      have fewer : ((first :: rest).drop size).length ≤ steps := by
        rw [List.length_drop]
        omega
      rw [chunksWithin, List.flatten_cons, ih fewer, List.take_append_drop]
      simp

/-- The parts of a list join to the list. -/
theorem flatten_chunks {size : Nat} (positive : 0 < size) (items : List α) :
    (chunks size items).flatten = items :=
  flatten_chunksWithin positive (Nat.le_refl _)

end Statement

namespace Record

/-- The records of all objects but some. -/
def without (uris : List String) (records : List Record) : List Record :=
  records.filter fun record => !uris.contains record.uri

theorem without_nil (records : List Record) : without [] records = records :=
  List.filter_eq_self.2 fun _ _ => rfl

theorem without_without (first second : List String) (records : List Record) :
    without second (without first records) = without (first ++ second) records := by
  rw [without, without, without, List.filter_filter]
  apply List.filter_congr
  intro record _
  by_cases inFirst : record.uri ∈ first <;> by_cases inSecond : record.uri ∈ second <;>
    simp [inFirst, inSecond]

end Record

namespace Database

variable {database : Database} {table : String}

theorem recordsOf_setRecords {old : List Record} (present : database.recordsOf table = .ok old)
    (records : List Record) : (database.setRecords table records).recordsOf table = .ok records := by
  have kept : (database.setRecords table records).records? table =
      (database.records? table).map fun _ => records := by
    unfold records? setRecords
    rw [List.find?_map]
    dsimp only [Function.comp_def]
    cases found : database.tables.find? fun known => sameName known.1 table with
    | none => rfl
    | some known => simp [List.find?_some found]
  unfold recordsOf at present ⊢
  rw [kept]
  cases there : database.records? table with
  | none => rw [there] at present; cases present
  | some _ => rfl

theorem setRecords_setRecords (database : Database) (table : String) (first second : List Record) :
    (database.setRecords table first).setRecords table second =
      database.setRecords table second := by
  simp only [setRecords, List.map_map]
  congr 1
  apply List.map_congr_left
  intro known _
  by_cases same : sameName known.1 table = true <;> simp [same]

theorem exec_deleteObjects {records : List Record} (present : database.recordsOf table = .ok records)
    (uris : List String) : database.exec (.deleteObjects table uris) =
      .ok (database.setRecords table (Record.without uris records)) := by
  have kept (record : Record) : (!(Condition.columnIn .uri uris).holds database.patterns records
      record) = !uris.contains record.uri := by
    congr 1
    rw [Bool.eq_iff_iff, Condition.holds_columnIn .uri rfl (record.cell_uri), List.contains_iff_mem]
  simp only [exec, present, ok_bind, kept]
  rfl

theorem exec_insertRows {records : List Record} (present : database.recordsOf table = .ok records)
    (rows : List Row) : database.exec (.insertRows table rows) =
      .ok (database.setRecords table (records ++ rows.map Record.ofRow)) := by
  simp only [exec, present, ok_bind]
  rfl

theorem execAll_append (first second : List Statement) :
    database.execAll (first ++ second) =
      database.execAll first >>= fun next => next.execAll second :=
  List.foldlM_append

section Present

variable {records : List Record} (present : database.recordsOf table = .ok records)
include present

theorem execAll_deleteObjects (parts : List (List String)) (held : List Record) :
    (database.setRecords table held).execAll (parts.map (.deleteObjects table)) =
      .ok (database.setRecords table (Record.without parts.flatten held)) := by
  induction parts generalizing held with
  | nil => rw [List.flatten_nil, Record.without_nil]; rfl
  | cons part rest ih =>
    rw [List.map_cons, execAll, List.foldlM_cons,
      exec_deleteObjects (recordsOf_setRecords present held), ok_bind, setRecords_setRecords,
      ← execAll, ih, Record.without_without, List.flatten_cons]

theorem execAll_insertRows (parts : List (List Row)) (held : List Record) :
    (database.setRecords table held).execAll (parts.map (.insertRows table)) =
      .ok (database.setRecords table (held ++ parts.flatten.map Record.ofRow)) := by
  induction parts generalizing held with
  | nil => simp [execAll, pure, Except.pure]
  | cons part rest ih =>
    rw [List.map_cons, execAll, List.foldlM_cons,
      exec_insertRows (recordsOf_setRecords present held), ok_bind, setRecords_setRecords,
      ← execAll, ih, List.flatten_cons, List.map_append, List.append_assoc]

/-- Deleting objects takes out their records and nothing else. -/
theorem execAll_deleteUris {uris : List String} (named : uris ≠ []) :
    database.execAll (Statement.deleteUris table uris) =
      .ok (database.setRecords table (Record.without uris records)) := by
  have joined : (Statement.chunks Statement.uriBatch uris).flatten = uris :=
    Statement.flatten_chunks (by decide) uris
  unfold Statement.deleteUris
  cases parts : Statement.chunks Statement.uriBatch uris with
  | nil => exact absurd (joined.symm.trans (by rw [parts]; rfl)) named
  | cons part rest =>
    rw [parts, List.flatten_cons] at joined
    rw [List.map_cons, execAll, List.foldlM_cons, exec_deleteObjects present, ok_bind, ← execAll,
      execAll_deleteObjects present, Record.without_without, joined]

theorem execAll_insertAll (rows : List Row) (held : List Record) :
    (database.setRecords table held).execAll (Statement.insertAll table rows) =
      .ok (database.setRecords table (held ++ rows.map Record.ofRow)) := by
  rw [Statement.insertAll, execAll_insertRows present, Statement.flatten_chunks (by decide)]

end Present

/-- Statements on a table fail where there is no such table. -/
theorem exists_recordsOf_of_deleteUris {uris : List String} (named : uris ≠ [])
    {statements : List Statement} {next : Database}
    (ran : database.execAll (Statement.deleteUris table uris ++ statements) = .ok next) :
    ∃ records, database.recordsOf table = .ok records := by
  have joined : (Statement.chunks Statement.uriBatch uris).flatten = uris :=
    Statement.flatten_chunks (by decide) uris
  cases parts : Statement.chunks Statement.uriBatch uris with
  | nil => exact absurd (joined.symm.trans (by rw [parts]; rfl)) named
  | cons part rest =>
    rw [Statement.deleteUris, parts, List.map_cons, List.cons_append, execAll,
      List.foldlM_cons] at ran
    obtain ⟨middle, first, -⟩ := bind_eq_ok.1 ran
    obtain ⟨records, present, -⟩ := bind_eq_ok.1 first
    exact ⟨records, present⟩

end Database

/-- Saving objects replaces what their table holds of them by their rows. -/
theorem StoreScope.save_eq_ok {scope : StoreScope} {database next : Database} {target : Segment}
    {objects : List GraphObject} {pool : List Segment} (some : objects ≠ [])
    (saved : scope.save database target objects pool = .ok next) :
    ∃ records rows, scope.hasSegment database target = true ∧
      database.recordsOf (scope.table target) = .ok records ∧
      GraphObject.allToRows scope.registry objects = .ok rows ∧
      database.setRecords (scope.table target)
        (Record.without (objects.map (·.uri)) records ++ rows.map Record.ofRow) = next := by
  obtain ⟨statements, made, ran⟩ := bind_eq_ok.1 saved
  obtain ⟨table, required, made⟩ := bind_eq_ok.1 made
  obtain ⟨_, -, made⟩ := bind_eq_ok.1 made
  obtain ⟨rows, written, made⟩ := bind_eq_ok.1 made
  obtain rfl := Except.ok.inj made
  unfold requireTable at required
  split at required
  next there =>
    obtain rfl := Except.ok.inj required
    have named : objects.map (·.uri) ≠ [] := by simpa using some
    obtain ⟨records, present⟩ := Database.exists_recordsOf_of_deleteUris named ran
    rw [Database.execAll_append, Database.execAll_deleteUris present named, ok_bind,
      Database.execAll_insertAll present] at ran
    exact ⟨records, rows, there, present, written, Except.ok.inj ran⟩
  next => cases required

end GraphSegments
