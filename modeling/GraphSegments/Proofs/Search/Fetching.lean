import GraphSegments.Proofs.Database.Saving
import GraphSegments.Proofs.Lists
import GraphSegments.Proofs.Search.Dialogues
import GraphSegments.Proofs.Table.Batches
import GraphSegments.Search.Loading

/-!
What is fetched for the matches of a segment. Although no statement names more than a batch of
URIs, each object is found with the values that the table holds of it, and as an object unless it
is broken.
-/

namespace GraphSegments
open Results Dialogue GraphSegments.Lists

namespace Record

/-- The value that a record stands for, together with its full text. -/
def decoded? (record : Record) : Option Value :=
  (record.toRow true).toOption.bind fun row => (Overflow.restore row.value row.fullText).toOption

/-- The values that an object holds of a property, in the order of the table. -/
def valuesOf (records : List Record) (name uri : String) : List Value :=
  ((records.filter (·.name == name)).filter (·.uri == uri)).filterMap decoded?

/-- The records of an object are among those of a part that names it. -/
theorem filter_part (records : List Record) (part : List String) (uri : String) :
    (records.filter fun record => decide (record.uri ∈ part)).filter (·.uri == uri) =
      if uri ∈ part then records.filter (·.uri == uri) else [] := by
  rw [List.filter_filter]
  by_cases inside : uri ∈ part
  · rw [if_pos inside]
    apply List.filter_congr
    intro record _
    by_cases mine : record.uri = uri
    · simp [mine, inside]
    · rw [beq_false_of_ne mine, Bool.false_and]
  · rw [if_neg inside, List.filter_eq_nil_iff]
    intro record _ both
    obtain ⟨mine, listed⟩ := Bool.and_eq_true_iff.1 both
    exact inside (beq_iff_eq.1 mine ▸ of_decide_eq_true listed)

/-- A timestamp as a value. -/
def stamp? (datum : Datum) : Option Value :=
  (optional (whole 64) datum).toOption.join.map fun stamp => .long (.ofInt stamp)

/-- The different timestamps that the records of an object repeat. -/
def stampsOf (records : List Record) (uri : String) : List Value :=
  ((records.filter (·.uri == uri)).map (·.tstamp)).eraseDups.filterMap stamp?

theorem toRows_eq_mapM (withFullText : Bool) (records : List Record) :
    toRows withFullText records = records.mapM (toRow withFullText) := by
  induction records with
  | nil => rfl
  | cons record rest ih =>
    rw [toRows, List.mapM_cons, ih]

theorem uri_of_toRow {withFullText : Bool} {record : Record} {row : Row}
    (read : record.toRow withFullText = .ok row) : row.uri = record.uri := by
  obtain ⟨⟨value, multi⟩, -, read⟩ := bind_eq_ok.1 read
  dsimp only at read
  split at read
  all_goals
    obtain ⟨fullText, -, read⟩ := bind_eq_ok.1 read
    obtain ⟨external, -, read⟩ := bind_eq_ok.1 read
    obtain ⟨tstamp, -, read⟩ := bind_eq_ok.1 read
    obtain ⟨channel, -, read⟩ := bind_eq_ok.1 read
    obtain rfl := Except.ok.inj read
    rfl

/-- The rows of one object have its URI. -/
theorem uri_of_toRows {withFullText : Bool} {records : List Record} {uri : String}
    {rows : List Row}
    (read : toRows withFullText (records.filter (·.uri == uri)) = .ok rows) :
    ∀ row ∈ rows, row.uri = uri := by
  intro row listed
  rw [toRows_eq_mapM] at read
  obtain ⟨record, member, made⟩ := exists_of_mem_mapM read listed
  rw [uri_of_toRow made]
  simpa using (List.mem_filter.1 member).2

/-- A record that is read as a row is read as the value that it stands for. -/
theorem toOption_valueOf (record : Record) :
    ((record.toRow true).toOption.bind fun row => (Loading.valueOf row).toOption) =
      record.decoded?.map (Prod.mk record.uri) := by
  cases read : record.toRow true with
  | error error => simp [decoded?, read, Except.toOption]
  | ok row =>
    have same := uri_of_toRow read
    cases restored : Overflow.restore row.value row.fullText <;>
      simp [decoded?, read, Except.toOption, Loading.valueOf, restored, same]

end Record

/-- The rows of one object are selected in the order of the table. -/
theorem Select.records_rowsOf_singleton (patterns : Patterns) (records : List Record)
    (table uri : String) (withFullText : Bool) :
    (rowsOf table [uri] withFullText).records patterns records =
      records.filter (·.uri == uri) := by
  have chosen : records.filter (fun record =>
      (Condition.columnIn .uri [uri]).holds patterns records record) =
        records.filter (·.uri == uri) := by
    apply List.filter_congr
    intro record _
    rw [Bool.eq_iff_iff, Condition.holds_columnIn .uri rfl record.cell_uri]
    simp
  have sorted : (records.filter (·.uri == uri)).mergeSort (fun a b => a.uri ≤ b.uri) =
      records.filter (·.uri == uri) :=
    mergeSort_of_alike Record.uri fun record listed => by
      simpa using (List.mem_filter.1 listed).2
  simp only [Select.records, Select.cut, Select.matching, rowsOf, chosen, sorted, if_true]
  rfl

section Present

variable {database : Database} {table : String} {records : List Record}
  (present : database.recordsOf table = .ok records)

namespace Fetching

theorem run_inParts {α : Type} (database : Database) (fetch : List String → Dialogue (List α))
    (parts : List (List String)) :
    (inParts fetch parts).run database =
      (parts.mapM fun part => (fetch part).run database).map List.flatten := by
  induction parts with
  | nil => rfl
  | cons part rest ih =>
    rw [inParts, run_bind, List.mapM_cons]
    cases (fetch part).run database with
    | error error => rfl
    | ok found =>
      rw [ok_bind, ok_bind, run_bind, ih]
      cases rest.mapM fun part => (fetch part).run database <;> rfl

/-- What is fetched for many objects is fetched part by part. -/
theorem run_forUris_eq_ok {α : Type} {fetch : List String → Dialogue (List α)}
    {uris : List String} {found : List α} :
    (forUris uris fetch).run database = .ok found ↔
      ∃ founds : List (List α), (Statement.chunks Statement.uriBatch uris).map
        (fun part => (fetch part).run database) = founds.map .ok ∧ founds.flatten = found := by
  rw [forUris, run_inParts, map_eq_ok]
  simp only [mapM_eq_ok]

/-- What is fetched part by part, where it is known what is fetched for a part. -/
theorem parts_of_run_forUris {α : Type} {fetch : List String → Dialogue (List α)}
    {uris : List String} {found : List α} {answer : List String → List α}
    (answers : ∀ part some, (fetch part).run database = .ok some → some = answer part)
    (ran : (forUris uris fetch).run database = .ok found) :
    found = (Statement.chunks Statement.uriBatch uris).flatMap answer := by
  obtain ⟨founds, each, rfl⟩ := run_forUris_eq_ok.1 ran
  have known : founds.map Except.ok = ((Statement.chunks Statement.uriBatch uris).map answer).map
      (Except.ok : List α → Except Error (List α)) := by
    rw [← each, List.map_map]
    apply List.map_congr_left
    intro part listed
    obtain ⟨some, -, asked⟩ := List.mem_map.1 (each ▸ List.mem_map_of_mem listed)
    rw [← asked, answers part some asked.symm]
    rfl
  rw [List.map_inj_right (fun _ _ => Except.ok.inj) |>.1 known]
  rfl

/-- For each object something was fetched that is part of the whole. -/
theorem exists_part_of_run_forUris {α : Type} {fetch : List String → Dialogue (List α)}
    {uris : List String} {found : List α} (ran : (forUris uris fetch).run database = .ok found)
    {uri : String} (listed : uri ∈ uris) :
    ∃ part some, uri ∈ part ∧ (fetch part).run database = .ok some ∧ some ⊆ found := by
  obtain ⟨founds, each, rfl⟩ := run_forUris_eq_ok.1 ran
  have whole := Statement.flatten_chunks (by decide : 0 < Statement.uriBatch) uris
  rw [← whole] at listed
  obtain ⟨part, isPart, inside⟩ := List.mem_flatten.1 listed
  obtain ⟨some, member, asked⟩ := List.mem_map.1 (each ▸ List.mem_map_of_mem isPart)
  exact ⟨part, some, inside, asked.symm, fun _ own => List.mem_flatten.2 ⟨some, member, own⟩⟩

/-- The last of the values fetched for one of many objects is the last that it has. -/
theorem last_of_parts {uris : List String} (distinct : uris.Nodup) {uri : String}
    (listed : uri ∈ uris) {answer : List String → List (String × Value)} {mine : List Value}
    (answers : ∀ part, (answer part).filter (·.1 == uri) =
      if uri ∈ part then mine.map (Prod.mk uri) else []) :
    ((((Statement.chunks Statement.uriBatch uris).flatMap answer).reverse.find?
      (·.1 == uri)).map (·.2)) = mine.getLast? := by
  have whole := Statement.flatten_chunks (by decide : 0 < Statement.uriBatch) uris
  have once : (Statement.chunks Statement.uriBatch uris).Pairwise
      fun a b => uri ∈ a → uri ∉ b :=
    (List.nodup_flatten.1 (whole.symm ▸ distinct)).2.imp fun apart here there => apart here there
  rw [← List.getLast?_filter, List.filter_flatMap, funext answers,
    flatMap_of_once once (whole.symm ▸ listed), List.getLast?_map, Option.map_map]
  exact Option.map_id'

end Fetching

include present

namespace Loading

open Fetching

/-- Records that are asked for are read as rows one by one. -/
theorem run_askRows {withFullText : Bool} {select : Select} (asked : select.table = table) :
    (askRows withFullText select).run database =
      (select.records database.patterns records).mapM (Record.toRow withFullText) := by
  rw [askRows, run_bind, run_askRecords, asked, present]
  change (ofExcept _).run database = _
  rw [run_ofExcept, Record.toRows_eq_mapM]

/-- The values fetched of a property are those that the records of its name stand for, part by
part. -/
theorem values_of_run_propertyValues {name : String} {uris : List String}
    {values : List (String × Value)}
    (ran : (propertyValues table name uris).run database = .ok values) :
    values = (Statement.chunks Statement.uriBatch uris).flatMap fun part =>
      ((records.filter (·.name == name)).filter fun record =>
        decide (record.uri ∈ part)).filterMap fun record =>
          record.decoded?.map (Prod.mk record.uri) := by
  rw [propertyValues, run_bind] at ran
  obtain ⟨rows, fetched, ran⟩ := bind_eq_ok.1 ran
  change (ofExcept (rows.mapM valueOf)).run database = _ at ran
  rw [run_ofExcept] at ran
  obtain rfl := eq_filterMap_of_mapM ran
  have selected (part : List String) :
      (Select.propertyRows table [name] part).records database.patterns records =
        (records.filter (·.name == name)).filter fun record => decide (record.uri ∈ part) := by
    change records.filter _ = _
    rw [List.filter_filter]
    apply List.filter_congr
    intro record _
    rw [Bool.eq_iff_iff, Condition.holds_all]
    simp [and_comm, Condition.holds_columnIn .name rfl record.cell_name,
      Condition.holds_columnIn .uri rfl record.cell_uri]
  obtain rfl := parts_of_run_forUris (fun part _ asked => by
    rw [run_askRows present rfl, selected part] at asked
    exact eq_filterMap_of_mapM asked) fetched
  rw [List.filterMap_flatMap]
  apply List.flatMap_congr
  intro part _
  rw [List.filterMap_filterMap, funext Record.toOption_valueOf]

/-- The last of the values fetched for an object is the last that the table holds of it. -/
theorem last_of_run_propertyValues {name : String} {uris : List String} (distinct : uris.Nodup)
    {uri : String} (listed : uri ∈ uris) {values : List (String × Value)}
    (ran : (propertyValues table name uris).run database = .ok values) :
    (values.reverse.find? (·.1 == uri)).map (·.2) =
      (Record.valuesOf records name uri).getLast? := by
  obtain rfl := values_of_run_propertyValues present ran
  apply last_of_parts distinct listed
  intro part
  rw [filter_pairs Record.uri Record.decoded? uri, Record.filter_part]
  split <;> rfl

/-- What is fetched of a property is what the table holds of it for the objects asked for. -/
theorem mem_of_run_propertyValues {name : String} {uris : List String}
    {values : List (String × Value)}
    (ran : (propertyValues table name uris).run database = .ok values) (value : Value) :
    value ∈ values.map (·.2) ↔ value ∈ uris.flatMap (Record.valuesOf records name) := by
  obtain rfl := values_of_run_propertyValues present ran
  have whole := Statement.flatten_chunks (by decide : 0 < Statement.uriBatch) uris
  conv_rhs => rw [← whole]
  simp only [List.mem_map, List.mem_flatMap, List.mem_filterMap, List.mem_filter, List.mem_flatten,
    Option.map_eq_some_iff, decide_eq_true_eq, beq_iff_eq, Record.valuesOf]
  constructor
  · rintro ⟨_, ⟨part, isPart, record, ⟨⟨listed, named⟩, inside⟩, own, decoded, rfl⟩, rfl⟩
    exact ⟨record.uri, ⟨part, isPart, inside⟩, record, ⟨⟨listed, named⟩, rfl⟩, decoded⟩
  · rintro ⟨uri, ⟨part, isPart, inside⟩, record, ⟨⟨listed, named⟩, rfl⟩, decoded⟩
    exact ⟨(record.uri, value), ⟨part, isPart, record, ⟨⟨listed, named⟩, inside⟩, value, decoded,
      rfl⟩, rfl⟩

omit present in
/-- The different timestamps of some objects, each with its object. -/
theorem map_records_timestamps (patterns : Patterns) (part : List String) :
    ((Select.timestamps table part).records patterns records).map
      (fun record => (record.uri, record.tstamp)) =
        ((records.filter fun record => decide (record.uri ∈ part)).map
          fun record => (record.uri, record.tstamp)).eraseDups := by
  have chosen : records.filter (fun record =>
      (Condition.columnIn .uri part).holds patterns records record) =
        records.filter fun record => decide (record.uri ∈ part) := by
    apply List.filter_congr
    intro record _
    rw [Bool.eq_iff_iff, Condition.holds_columnIn .uri rfl record.cell_uri, decide_eq_true_iff]
  change ((records.filter _).eraseDupsBy _).map _ = _
  rw [chosen]
  apply map_eraseDupsBy
  intro a _ b _
  rw [Bool.eq_iff_iff]
  simp [Select.alike, Select.timestamps, Record.cell]

theorem stamps_of_run {part : List String} {stamped : List (String × Option Int)}
    (ran : (do
      let records ← Dialogue.askRecords (.timestamps table part)
      Dialogue.ofExcept (records.mapM timestamp)).run database = .ok stamped) :
    stamped = (((records.filter fun record => decide (record.uri ∈ part)).map
      fun record => (record.uri, record.tstamp)).eraseDups).filterMap fun stamped =>
        (Record.optional (Record.whole 64) stamped.2).toOption.map (Prod.mk stamped.1) := by
  have read (record : Record) : (timestamp record).toOption =
      (Record.optional (Record.whole 64) record.tstamp).toOption.map (Prod.mk record.uri) := by
    rw [timestamp]
    cases Record.optional (Record.whole 64) record.tstamp <;> rfl
  have asked : (Select.timestamps table part).table = table := rfl
  rw [run_bind, run_askRecords, asked, present] at ran
  change (ofExcept _).run database = _ at ran
  rw [run_ofExcept] at ran
  rw [eq_filterMap_of_mapM ran, ← map_records_timestamps database.patterns part,
    List.filterMap_map]
  exact congrArg (List.filterMap · _) (funext read)

/-- The last of the timestamps fetched for an object is the last that its records repeat. -/
theorem last_of_run_timestampValues {uris : List String} (distinct : uris.Nodup) {uri : String}
    (listed : uri ∈ uris) {values : List (String × Value)}
    (ran : (timestampValues table uris).run database = .ok values) :
    (values.reverse.find? (·.1 == uri)).map (·.2) = (Record.stampsOf records uri).getLast? := by
  rw [timestampValues, run_bind] at ran
  obtain ⟨stamped, fetched, done⟩ := bind_eq_ok.1 ran
  obtain rfl : values = stamped.filterMap fun found =>
    found.2.map fun instant => (found.1, .long (.ofInt instant)) := (Except.ok.inj done).symm
  obtain rfl := parts_of_run_forUris (fun _ _ => stamps_of_run present) fetched
  have paired (stamped : String × Datum) :
      (((Record.optional (Record.whole 64) stamped.2).toOption.map (Prod.mk stamped.1)).bind
        fun found => found.2.map fun instant => (found.1, Value.long (.ofInt instant))) =
          (Record.stamp? stamped.2).map (Prod.mk stamped.1) := by
    unfold Record.stamp?
    cases (Record.optional (Record.whole 64) stamped.2).toOption with
    | none => rfl
    | some stamp => cases stamp <;> rfl
  rw [List.filterMap_flatMap]
  apply last_of_parts distinct listed
  intro part
  have own : (((records.filter fun record => decide (record.uri ∈ part)).map
      fun record => (record.uri, record.tstamp)).filter (·.1 == uri)) =
        (if uri ∈ part then (records.filter (·.uri == uri)).map (·.tstamp) else []).map
          (Prod.mk uri) := by
    have keys : ((fun stamped : String × Datum => stamped.1 == uri) ∘
        fun record : Record => (record.uri, record.tstamp)) = (·.uri == uri) := rfl
    rw [List.filter_map, keys, Record.filter_part]
    split
    next =>
      rw [List.map_map]
      apply List.map_congr_left
      intro record kept
      rw [← beq_iff_eq.1 (List.mem_filter.1 kept).2]
      rfl
    next => rfl
  have together (stamps : List Datum) :
      (stamps.map (Prod.mk uri)).eraseDups = stamps.eraseDups.map (Prod.mk uri) := by
    refine (map_eraseDupsBy (Prod.mk uri) stamps fun a _ b _ => ?_).symm
    rw [Bool.eq_iff_iff]
    simp
  rw [List.filterMap_filterMap, funext paired,
    filter_pairs Prod.fst (fun stamped => Record.stamp? stamped.2) uri, filter_eraseDups, own,
    together, List.filterMap_map]
  split <;> rfl

/-- The rows fetched for one object are those that the table has of it. -/
theorem run_rows_singleton {uri : String} {withFullText : Bool} {rows : List Row}
    (read : Record.toRows withFullText (records.filter (·.uri == uri)) = .ok rows) :
    (Fetching.rows table [uri] withFullText).run database = .ok rows := by
  have asked : (askRows withFullText (.rowsOf table [uri] withFullText)).run database =
      .ok rows := by
    rw [run_askRows present rfl, Select.records_rowsOf_singleton, ← Record.toRows_eq_mapM, read]
  have parts : Statement.chunks Statement.uriBatch [uri] = [[uri]] := rfl
  have sorted : rows.mergeSort (fun a b => a.uri ≤ b.uri) = rows :=
    mergeSort_of_alike Row.uri (Record.uri_of_toRows read)
  rw [Fetching.rows, forUris, parts]
  simp only [inParts, run_bind, asked, ok_bind, run_pure, run_done, List.append_nil, sorted]

/-- The rows fetched for some objects hold every one of them that the table has. -/
theorem exists_row_of_run_rows {uris : List String} {rows : List Row}
    (ran : (Fetching.rows table uris false).run database = .ok rows) {uri : String}
    (listed : uri ∈ uris) (held : ∃ record ∈ records, record.uri = uri) :
    ∃ row ∈ rows, row.uri = uri := by
  rw [Fetching.rows, run_bind] at ran
  obtain ⟨found, fetched, ran⟩ := bind_eq_ok.1 ran
  obtain rfl := Except.ok.inj ran
  obtain ⟨part, some, inside, asked, joined⟩ := exists_part_of_run_forUris fetched listed
  obtain ⟨record, member, rfl⟩ := held
  rw [run_askRows present rfl, mapM_eq_ok] at asked
  have selected : record ∈ (Select.rowsOf table part false).records database.patterns records := by
    change record ∈ (records.filter _).mergeSort _
    rw [List.mem_mergeSort, List.mem_filter]
    exact ⟨member, (Condition.holds_columnIn .uri rfl record.cell_uri part).2 inside⟩
  obtain ⟨row, isRow, read⟩ := List.mem_map.1 (asked ▸ List.mem_map_of_mem selected)
  exact ⟨row, List.mem_mergeSort.2 (joined isRow), Record.uri_of_toRow read.symm⟩

end Loading

end Present

/-- Completing an object leaves it the same object. -/
theorem Resolution.uri_ofDeferred (object : GraphObject) (texts : List FullText)
    (pending : List DeferredText) : (ofDeferred object texts pending).object.uri = object.uri := by
  induction pending generalizing object texts with
  | nil => rfl
  | cons first rest ih =>
    rw [ofDeferred]
    split
    next => rfl
    next =>
      rw [ih]
      split <;> rfl

namespace Loading

theorem uris_of_resolveEach {texts : List FullText} {decoded : List DecodedObject}
    {objects : List GraphObject} (resolved : resolveEach texts decoded = .ok objects) :
    objects.map (·.uri) = decoded.map (·.object.uri) := by
  induction decoded generalizing texts objects with
  | nil =>
    obtain rfl := Except.ok.inj resolved
    rfl
  | cons first rest ih =>
    obtain ⟨object, complete, resolved⟩ := bind_eq_ok.1 resolved
    obtain ⟨others, remaining, joined⟩ := bind_eq_ok.1 resolved
    obtain rfl := Except.ok.inj joined
    obtain ⟨_, -, rfl⟩ := map_eq_ok.1 complete
    rw [List.map_cons, List.map_cons, ih remaining]
    exact congrArg (· :: _) (Resolution.uri_ofDeferred _ _ _)

/-- An object without long texts is loaded as its rows are read. -/
theorem run_objects_singleton {database : Database} {table : String} {records : List Record}
    (present : database.recordsOf table = .ok records) {registry : Registry} {read : ReadOptions}
    {uri : String} {rows : List Row} {object : GraphObject}
    (rowsRead : Record.toRows false (records.filter (·.uri == uri)) = .ok rows)
    (batch : DecodedObject.ofBatch registry { read with overflow := .deferred } rows =
      .ok [⟨object, []⟩]) :
    (objects registry read table [uri]).run database = .ok [object] := by
  rw [objects, run_bind, run_rows_singleton present rowsRead, ok_bind, batch]
  rfl

/-- Where broken objects are refused, every object that is asked for and that the table has is
loaded. -/
theorem exists_object_of_run_objects {database : Database} {table : String} {records : List Record}
    (present : database.recordsOf table = .ok records) {registry : Registry} {read : ReadOptions}
    (strict : read.ignoreBroken = false) {uris : List String} {found : List GraphObject}
    (ran : (objects registry read table uris).run database = .ok found) {uri : String}
    (listed : uri ∈ uris) (held : ∃ record ∈ records, record.uri = uri) :
    ∃ object ∈ found, object.uri = uri := by
  rw [objects, run_bind] at ran
  obtain ⟨rows, fetched, ran⟩ := bind_eq_ok.1 ran
  change (Dialogue.ofExcept _ >>= _).run database = _ at ran
  rw [run_bind, run_ofExcept] at ran
  obtain ⟨decoded, batch, ran⟩ := bind_eq_ok.1 ran
  have resolved : ∃ texts, resolveEach texts decoded = .ok found := by
    dsimp only at ran
    split at ran
    next =>
      rw [run_ofExcept] at ran
      exact ⟨[], ran⟩
    next =>
      rw [run_bind] at ran
      obtain ⟨texts, -, ran⟩ := bind_eq_ok.1 ran
      change (Dialogue.ofExcept _).run database = _ at ran
      rw [run_ofExcept] at ran
      exact ⟨texts, ran⟩
  obtain ⟨texts, resolved⟩ := resolved
  obtain ⟨row, isRow, same⟩ := exists_row_of_run_rows present fetched listed held
  have deferring : { read with overflow := .deferred }.ignoreBroken = false := strict
  have known : uri ∈ found.map (·.uri) := by
    rw [uris_of_resolveEach resolved, DecodedObject.uris_of_ofBatch deferring batch,
      List.mem_eraseDups]
    exact List.mem_map.2 ⟨row, isRow, same⟩
  exact List.mem_map.1 known

end Loading

end GraphSegments
