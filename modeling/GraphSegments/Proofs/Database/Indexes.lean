import GraphSegments.Proofs.Results
import GraphSegments.Proofs.Table.Names

/-!
The indexes of segment tables. Their names are the name of the table and a few characters more, so
whenever the name of the table can be given, theirs can: a table that is created gets its indexes.
-/

namespace GraphSegments
open Results

/-- What a text starts with, the beginning of the text starts with, if it is long enough. -/
theorem Text.strip?_isSome_of_append {start chars more : List Char}
    (short : start.length ≤ chars.length) (found : (strip? start (chars ++ more)).isSome = true) :
    (strip? start chars).isSome = true := by
  induction start generalizing chars with
  | nil => rfl
  | cons s start ih =>
    cases chars with
    | nil => cases short
    | cons c chars =>
      rw [List.cons_append, strip?] at found
      rw [strip?]
      split at found
      next same =>
        rw [if_pos same]
        exact ih (Nat.le_of_succ_le_succ short) found
      next => cases found

namespace Database

theorem length_eq_of_sameName {first second : String} (same : sameName first second = true) :
    first.toList.length = second.toList.length := by
  have lists := congrArg List.length (String.ofList_injective (beq_iff_eq.1 same))
  rwa [List.length_map, List.length_map] at lists

end Database

namespace Statement

/-- The columns of a segment table that are indexed. -/
def indexedColumns : List Column := [.uri, .name]

/-- What the name of an index has after the name of its table. -/
def indexEnd (column : Column) : List Char := ("_" ++ column.label ++ "_idx").toList

theorem toList_indexName (table : String) (column : Column) :
    (indexName table column).toList = table.toList ++ indexEnd column := by
  simp [indexName, indexEnd]

theorem indexEnd_ne_nil : ∀ column ∈ indexedColumns, indexEnd column ≠ [] := by decide

theorem zero_not_mem_indexEnd : ∀ column ∈ indexedColumns,
    Char.ofNat 0 ∉ indexEnd column := by decide

theorem eq_of_length_indexEnd : ∀ column ∈ indexedColumns, ∀ other ∈ indexedColumns,
    (indexEnd other).length = (indexEnd column).length → other = column := by decide

/-- Letter case tells neither the tables nor the columns of two indexes apart. -/
theorem sameName_indexName {start first second : String} {column other : Column}
    (one : column ∈ indexedColumns) (two : other ∈ indexedColumns)
    (same : Database.sameName (indexName (TableName.ofUri start first) column)
      (indexName (TableName.ofUri start second) other) = true) :
    other = column ∧
      Database.sameName (TableName.ofUri start first) (TableName.ofUri start second) = true := by
  have lengths := Database.length_eq_of_sameName same
  rw [toList_indexName, toList_indexName, List.length_append, List.length_append,
    TableName.length_ofUri, TableName.length_ofUri] at lengths
  obtain rfl := eq_of_length_indexEnd column one other two (by omega)
  have lists := String.ofList_injective (beq_iff_eq.1 same)
  rw [toList_indexName, toList_indexName, List.map_append, List.map_append] at lists
  exact ⟨rfl, beq_iff_eq.2 (congrArg String.ofList (List.append_cancel_right lists))⟩

end Statement

namespace Database

variable {database : Database} {table start : String} {column : Column}

theorem isTaken_eq_false_iff {name : String} : database.isTaken name = false ↔
    (Text.stripText? reservedStart (Text.lowerAscii name)).isSome = false ∧
      Char.ofNat 0 ∉ name.toList ∧
      ∀ other ∈ database.ownTables ++ database.tableNames ++ database.indexes.map (·.name),
        sameName name other = false := by
  rw [isTaken, Bool.or_eq_false_iff, Bool.or_eq_false_iff, and_assoc, List.any_eq_false]
  simp only [List.contains_eq_mem, decide_eq_false_iff_not, Bool.not_eq_true]

/-- Every index is that of the catalog or one of a table that is there. -/
def HasOwnIndexes (database : Database) : Prop :=
  ∀ index ∈ database.indexes, index.name = Statement.catalogIndex ∨
    index.table ∈ database.tableNames ∧ ∃ column ∈ Statement.indexedColumns,
      index.name = Statement.indexName index.table column

/-- No index has the name that the index of a table on a column would have, since it is that of the
catalog, or one of another table or on another column. -/
def LeavesIndex (database : Database) (start segmentUri : String) (column : Column) : Prop :=
  ∀ index ∈ database.indexes, index.name = Statement.catalogIndex ∨
    ∃ uri, ∃ other ∈ Statement.indexedColumns,
      index.name = Statement.indexName (TableName.ofUri start uri) other ∧
        (other = column → sameName (TableName.ofUri start segmentUri)
          (TableName.ofUri start uri) = false)

/-- A name that nobody could have does not become one that anybody could have by what the name of an
index has in addition. -/
theorem stripText?_indexName {segmentUri : String}
    (possible : (Text.stripText? reservedStart
      (Text.lowerAscii (TableName.ofUri start segmentUri))).isSome = false) :
    (Text.stripText? reservedStart (Text.lowerAscii
      (Statement.indexName (TableName.ofUri start segmentUri) column))).isSome = false := by
  rw [Bool.eq_false_iff] at possible ⊢
  intro found
  refine possible ?_
  rw [Text.stripText?, Option.isSome_map, Text.lowerAscii, String.toList_ofList] at found ⊢
  rw [Statement.toList_indexName, List.map_append] at found
  refine Text.strip?_isSome_of_append ?_ found
  rw [List.length_map, TableName.length_ofUri]
  exact Nat.le_trans (by decide : reservedStart.toList.length ≤ TableName.digits)
    (Nat.le_add_left _ _)

/-- Names that are no longer than those of tables are not those of indexes of tables. -/
theorem sameName_indexName_of_le {segmentUri name : String}
    (indexed : column ∈ Statement.indexedColumns)
    (short : name.toList.length ≤ start.toList.length + TableName.digits) :
    sameName (Statement.indexName (TableName.ofUri start segmentUri) column) name = false := by
  rw [Bool.eq_false_iff]
  intro same
  have lengths := length_eq_of_sameName same
  rw [Statement.toList_indexName, List.length_append, TableName.length_ofUri] at lengths
  have long := List.length_pos_iff.2 (Statement.indexEnd_ne_nil column indexed)
  omega

/-- The name of an index can be given if that of its table could be, and no other index of the
table has it. -/
theorem isTaken_indexName {segmentUri : String} (indexed : column ∈ Statement.indexedColumns)
    (possible : (Text.stripText? reservedStart
      (Text.lowerAscii (TableName.ofUri start segmentUri))).isSome = false)
    (clean : Char.ofNat 0 ∉ (TableName.ofUri start segmentUri).toList)
    (named : ∀ name ∈ database.tableNames, ∃ uri, name = TableName.ofUri start uri)
    (left : database.LeavesIndex start segmentUri column) :
    database.isTaken (Statement.indexName (TableName.ofUri start segmentUri) column) = false := by
  have fixed : ∀ name ∈ [memoryTable, Statement.catalogTable, Statement.catalogIndex],
      name.toList.length ≤ TableName.digits := by decide
  have apart {name : String}
      (known : name ∈ [memoryTable, Statement.catalogTable, Statement.catalogIndex]) :
      sameName (Statement.indexName (TableName.ofUri start segmentUri) column) name = false :=
    sameName_indexName_of_le indexed ((fixed name known).trans (Nat.le_add_left _ _))
  refine isTaken_eq_false_iff.2 ⟨stripText?_indexName possible, ?_, fun other listed => ?_⟩
  · rw [Statement.toList_indexName, List.mem_append, not_or]
    exact ⟨clean, Statement.zero_not_mem_indexEnd column indexed⟩
  · rw [List.mem_append, List.mem_append] at listed
    rcases listed with (own | known) | other
    · refine apart ?_
      unfold ownTables at own
      split at own
      next => exact List.mem_append_left [_] own
      next => exact List.mem_cons.2 (.inl (List.mem_singleton.1 own))
    · obtain ⟨uri, rfl⟩ := named other known
      exact sameName_indexName_of_le indexed (TableName.length_ofUri start uri).le
    · obtain ⟨index, there, rfl⟩ := List.mem_map.1 other
      rcases left index there with catalog | ⟨uri, column', indexed', same, differs⟩
      · exact catalog ▸ apart (by decide)
      · rw [same, Bool.eq_false_iff]
        intro alike
        obtain ⟨own, both⟩ := Statement.sameName_indexName indexed indexed' alike
        exact Bool.eq_false_iff.1 (differs own) both

/-- As long as the name of a table can be given, its indexes are not there. -/
theorem HasOwnIndexes.leavesIndex {segmentUri : String} (own : database.HasOwnIndexes)
    (named : ∀ name ∈ database.tableNames, ∃ uri, name = TableName.ofUri start uri)
    (free : database.isTaken (TableName.ofUri start segmentUri) = false) (column : Column) :
    database.LeavesIndex start segmentUri column := by
  intro index listed
  rcases own index listed with catalog | ⟨there, other, inside, same⟩
  · exact .inl catalog
  · obtain ⟨uri, name⟩ := named _ there
    refine .inr ⟨uri, other, inside, name ▸ same, fun _ => ?_⟩
    refine (isTaken_eq_false_iff.1 free).2.2 _ ?_
    exact List.mem_append_left _ (List.mem_append_right _ (name ▸ there))

/-- The index of a table is created if its name can be given. -/
theorem createIndex_of_free {records : List Record}
    (plain : (Statement.indexName table column).toList.contains Dialect.sqlite.identifierMark =
      false) (present : database.recordsOf table = .ok records)
    (free : database.isTaken (Statement.indexName table column) = false) :
    database.createIndex table column = (.ok (), { database with
      indexes := database.indexes ++ [⟨Statement.indexName table column, table⟩] }) := by
  unfold createIndex
  dsimp only
  rw [plain, if_neg Bool.false_ne_true, present, ok_bind, addIndex, if_neg]
  dsimp only
  rw [free]
  exact Bool.false_ne_true

end Database

end GraphSegments
