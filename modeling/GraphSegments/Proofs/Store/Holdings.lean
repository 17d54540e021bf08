import GraphSegments.Proofs.Search.Fetching
import GraphSegments.Proofs.Store.Replacement

/-!
Which of some objects a table holds. By that a save is refused where another table of its pool holds
one of them, and they are deleted from one table after the other, which never fails.
-/

namespace GraphSegments
open Results

namespace Record

/-- Whether some records are of an object. -/
def Hold (records : List Record) (uri : String) : Prop :=
  ∃ record ∈ records, record.uri = uri

theorem hold_without {records : List Record} {uris : List String} {uri : String} :
    Hold (without uris records) uri ↔ uri ∉ uris ∧ Hold records uri := by
  constructor
  · intro held
    obtain ⟨record, listed, rfl⟩ := held
    obtain ⟨inside, other⟩ := List.mem_filter.1 listed
    exact ⟨by simpa using other, record, inside, rfl⟩
  · intro held
    obtain ⟨other, record, inside, rfl⟩ := held
    exact ⟨record, List.mem_filter.2 ⟨inside, by simpa using other⟩, rfl⟩

end Record

namespace Database

variable {database : Database}

theorem recordsOf_congr (database : Database) {table other : String}
    (same : sameName table other = true) : database.recordsOf table = database.recordsOf other := by
  have alike (known : String) : sameName known table = sameName known other := by
    rw [sameName, sameName, beq_iff_eq.1 same]
  simp only [recordsOf, records?, alike]

/-- No table is lost when the records of one are replaced. -/
theorem exists_recordsOf_setRecords {table other : String} {records : List Record}
    (present : database.recordsOf other = .ok records) (changed : List Record) :
    ∃ records, (database.setRecords table changed).recordsOf other = .ok records := by
  cases same : sameName other table with
  | true =>
    rw [recordsOf_congr _ same] at present ⊢
    exact ⟨changed, recordsOf_setRecords present changed⟩
  | false => exact ⟨records, (recordsOf_setRecords_of_ne database same changed).trans present⟩

end Database

namespace StoreScope

variable {database next : Database} {uris : List String}

/-- Of some objects those are found that the records of a table are of. -/
theorem exists_stored {table : String} {records : List Record}
    (present : database.recordsOf table = .ok records) (uris : List String) :
    ∃ found, stored database table uris = .ok found ∧
      ∀ uri, uri ∈ found ↔ uri ∈ uris ∧ Record.Hold records uri := by
  let answer (part : List String) : List String :=
    (Select.objectsAmong table part).uris database.patterns records
  have asked (part : List String) :
      (Dialogue.askUris (.objectsAmong table part)).run database = .ok (answer part) := by
    rw [Dialogue.run_askUris]
    change (database.recordsOf table).map _ = _
    rw [present]
    rfl
  have selects (part : List String) (uri : String) :
      uri ∈ answer part ↔ uri ∈ part ∧ Record.Hold records uri := by
    refine Select.mem_uris_objects.trans ⟨fun selected => ?_, fun held => ?_⟩
    · obtain ⟨record, listed, rfl, holds⟩ := selected
      exact ⟨(Condition.holds_columnIn .uri rfl record.cell_uri part).1 holds, record, listed, rfl⟩
    · obtain ⟨inside, record, listed, rfl⟩ := held
      exact ⟨record, listed, rfl,
        (Condition.holds_columnIn .uri rfl record.cell_uri part).2 inside⟩
  have fetched : (Fetching.forUris uris fun part =>
      Dialogue.askUris (.objectsAmong table part)).run database =
        .ok ((Statement.chunks Statement.uriBatch uris).flatMap answer) := by
    refine Fetching.run_forUris_eq_ok.2
      ⟨(Statement.chunks Statement.uriBatch uris).map answer, ?_, rfl⟩
    rw [List.map_map]
    exact List.map_congr_left fun part _ => asked part
  refine ⟨_, by rw [stored, Fetching.objectsAmong, Dialogue.run_bind, fetched]; rfl, fun uri => ?_⟩
  have whole := Statement.flatten_chunks (by decide : 0 < Statement.uriBatch) uris
  have listed : uri ∈ uris ↔ ∃ part ∈ Statement.chunks Statement.uriBatch uris, uri ∈ part := by
    rw [← List.mem_flatten, whole]
  rw [UriSet.mem_ofList, List.mem_flatMap, listed]
  simp only [selects]
  exact ⟨fun ⟨part, isPart, inside, held⟩ => ⟨⟨part, isPart, inside⟩, held⟩,
    fun ⟨⟨part, isPart, inside⟩, held⟩ => ⟨part, isPart, inside, held⟩⟩

theorem nodup_of_stored {table : String} {found : UriSet}
    (ran : stored database table uris = .ok found) : found.Nodup := by
  rw [stored, Fetching.objectsAmong, Dialogue.run_bind] at ran
  obtain ⟨listed, -, ran⟩ := bind_eq_ok.1 ran
  obtain rfl : UriSet.ofList listed = found := Except.ok.inj ran
  exact (UriSet.ascending_ofList listed).nodup

section Present

variable {tables : List (Segment × String)}
  (present : ∀ table ∈ tables, ∃ records, database.recordsOf table.2 = .ok records)
include present

/-- Objects are accepted if no other table holds one of them. Otherwise one is named that another
table holds. -/
theorem refuseStored_cases (target : String) (uris : List String) :
    (refuseStored database target uris tables = .ok () ∧
      ∀ table ∈ tables, table.2 ≠ target → ∀ records, database.recordsOf table.2 = .ok records →
        ∀ uri ∈ uris, ¬ Record.Hold records uri) ∨
    ∃ table ∈ tables, table.2 ≠ target ∧ ∃ uri ∈ uris,
      (∃ records, database.recordsOf table.2 = .ok records ∧ Record.Hold records uri) ∧
        refuseStored database target uris tables =
          .error (.conflict (.storedElsewhere uri table.1.uri)) := by
  induction tables with
  | nil => exact .inl ⟨rfl, fun _ listed => absurd listed List.not_mem_nil⟩
  | cons first rest ih =>
    obtain ⟨⟨records, held⟩, others⟩ := List.forall_mem_cons.1 present
    obtain ⟨segment, table⟩ := first
    by_cases own : table = target
    · have skipped : refuseStored database target uris ((segment, table) :: rest) =
          refuseStored database target uris rest := if_pos own
      rw [skipped]
      rcases ih others with ⟨accepted, apart⟩ | ⟨other, listed, found⟩
      · exact .inl ⟨accepted, List.forall_mem_cons.2 ⟨fun differs => absurd own differs, apart⟩⟩
      · exact .inr ⟨other, List.mem_cons_of_mem _ listed, found⟩
    · obtain ⟨found, ran, mem⟩ := exists_stored held uris
      rw [refuseStored, if_neg own, ran, ok_bind]
      cases found with
      | nil =>
        have none : ∀ uri ∈ uris, ¬ Record.Hold records uri := fun uri inside holds =>
          absurd ((mem uri).2 ⟨inside, holds⟩) List.not_mem_nil
        rcases ih others with ⟨accepted, apart⟩ | ⟨other, listed, found⟩
        · refine .inl ⟨accepted, List.forall_mem_cons.2 ⟨fun _ again same => ?_, apart⟩⟩
          exact Except.ok.inj (held.symm.trans same) ▸ none
        · exact .inr ⟨other, List.mem_cons_of_mem _ listed, found⟩
      | cons uri more =>
        obtain ⟨inside, holds⟩ := (mem uri).1 List.mem_cons_self
        exact .inr ⟨(segment, table), List.mem_cons_self, own, uri, inside, ⟨records, held, holds⟩,
          rfl⟩

omit present in
/-- Deleting takes what a table holds of the objects out of it, if there is anything, and goes on
with the next table. -/
theorem deleteFrom_cons {table : String} {records : List Record}
    (held : database.recordsOf table = .ok records) (uris : List String) (segment : Segment)
    (rest : List (Segment × String)) :
    ∃ found cleared, stored database table uris = .ok found ∧
      deleteFrom uris ((segment, table) :: rest) database =
        (deleteFrom uris rest cleared).map (fun others => (found.length + others.1, others.2)) ∧
      (found = [] ∧ cleared = database ∨
        found ≠ [] ∧ cleared = database.setRecords table (Record.without found records)) := by
  obtain ⟨found, ran, -⟩ := exists_stored held uris
  cases found with
  | nil =>
    refine ⟨[], database, ran, ?_, .inl ⟨rfl, rfl⟩⟩
    rw [deleteFrom, ran, ok_bind]
    change (deleteFrom uris rest database >>= _) = _
    cases deleteFrom uris rest database <;> rfl
  | cons uri more =>
    have some : uri :: more ≠ [] := List.cons_ne_nil _ _
    refine ⟨uri :: more, _, ran, ?_, .inr ⟨some, rfl⟩⟩
    rw [deleteFrom, ran, ok_bind]
    simp only [List.isEmpty_cons, Bool.false_eq_true, if_false,
      Database.execAll_deleteUris held some, ok_bind]
    cases deleteFrom uris rest (database.setRecords table _) <;> rfl

/-- Deleting objects from tables that are there never fails. It changes nothing where nothing is
deleted, and keeps whatever is kept when objects are taken out of one table. -/
theorem exists_deleteFrom (uris : List String) :
    ∃ count next, deleteFrom uris tables database = .ok (count, next) ∧
      (count = 0 → next = database) ∧
      ∀ holds : Database → Prop, holds database →
        (∀ before table records found, holds before → before.recordsOf table = .ok records →
          holds (before.setRecords table (Record.without found records))) → holds next := by
  induction tables generalizing database with
  | nil => exact ⟨0, database, rfl, fun _ => rfl, fun _ start _ => start⟩
  | cons first rest ih =>
    obtain ⟨⟨records, held⟩, others⟩ := List.forall_mem_cons.1 present
    obtain ⟨segment, table⟩ := first
    obtain ⟨found, cleared, -, step, left⟩ := deleteFrom_cons held uris segment rest
    have kept : ∀ other ∈ rest, ∃ records, cleared.recordsOf other.2 = .ok records := by
      intro other listed
      obtain ⟨old, there⟩ := others other listed
      rcases left with ⟨-, rfl⟩ | ⟨-, rfl⟩
      · exact ⟨old, there⟩
      · exact Database.exists_recordsOf_setRecords there _
    obtain ⟨count, next, deleted, same, keeps⟩ := ih kept
    refine ⟨found.length + count, next, by rw [step, deleted]; rfl, fun none => ?_,
      fun holds start each => keeps holds ?_ each⟩
    · rcases left with ⟨-, rfl⟩ | ⟨some, -⟩
      · exact same (by omega)
      · exact absurd (List.length_eq_zero_iff.1 (by omega)) some
    · rcases left with ⟨-, rfl⟩ | ⟨-, rfl⟩
      · exact start
      · exact each _ _ _ _ start held

end Present

/-- The segments of a pool that exist have their tables. -/
theorem exists_recordsOf_of_poolTables (scope : StoreScope) (pool : List Segment) :
    ∀ table ∈ scope.poolTables database pool,
      ∃ records, database.recordsOf table.2 = .ok records := by
  intro table listed
  obtain ⟨segment, inside, rfl⟩ := List.mem_map.1 listed
  exact exists_recordsOf_of_hasSegment (List.mem_filter.1 inside).2

end StoreScope

end GraphSegments
