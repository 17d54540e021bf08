import GraphSegments.Proofs.Search.Fetching
import GraphSegments.Proofs.Search.UriSets
import GraphSegments.Proofs.Sorting
import GraphSegments.Proofs.Store.Holdings
import Mathlib.Data.List.ReduceOption

/-!
What is loaded of a table. However many statements it takes to fetch the rows of some objects, those
of one object come together and in their order, as long as no two statements ask for it. Then every
object is read from its own records, and the objects come in ascending order of their URIs.
-/

namespace GraphSegments
open Results GraphSegments.Lists

namespace Statement

variable {α : Type} {size : Nat} {items : List α} {item : α}

/-- An item has all its places in one part of a list. -/
def InOnePart (size : Nat) (items : List α) (item : α) : Prop :=
  ∀ i j, items[i]? = some item → items[j]? = some item → i / size = j / size

theorem inOnePart_iff_drop (positive : 0 < size) :
    InOnePart size items item ↔
      (item ∈ items.take size → item ∉ items.drop size) ∧
        InOnePart size (items.drop size) item := by
  have shift (i : Nat) : (size + i) / size = i / size + 1 := Nat.add_div_left i positive
  constructor
  · intro one
    refine ⟨fun first second => ?_, fun i j left right => ?_⟩
    · obtain ⟨i, left⟩ := List.mem_iff_getElem?.1 first
      obtain ⟨j, right⟩ := List.mem_iff_getElem?.1 second
      rw [List.getElem?_take] at left
      rw [List.getElem?_drop] at right
      split at left
      next early =>
        have same := one i (size + j) left right
        rw [Nat.div_eq_of_lt early, shift] at same
        exact Nat.succ_ne_zero _ same.symm
      next => cases left
    · rw [List.getElem?_drop] at left right
      have same := one _ _ left right
      rw [shift, shift] at same
      exact Nat.succ.inj same
  · intro each i j left right
    obtain ⟨apart, one⟩ := each
    have early {i : Nat} (place : items[i]? = some item) (below : i < size) :
        item ∈ items.take size :=
      List.mem_iff_getElem?.2 ⟨i, by rw [List.getElem?_take, if_pos below, place]⟩
    have late {i : Nat} (place : items[i]? = some item) (above : size ≤ i) :
        (items.drop size)[i - size]? = some item := by
      rw [List.getElem?_drop, Nat.add_sub_cancel' above, place]
    rcases Nat.lt_or_ge i size with iBelow | iAbove <;>
      rcases Nat.lt_or_ge j size with jBelow | jAbove
    · rw [Nat.div_eq_of_lt iBelow, Nat.div_eq_of_lt jBelow]
    · exact absurd (List.mem_iff_getElem?.2 ⟨_, late right jAbove⟩) (apart (early left iBelow))
    · exact absurd (List.mem_iff_getElem?.2 ⟨_, late left iAbove⟩) (apart (early right jBelow))
    · have same := one _ _ (late left iAbove) (late right jAbove)
      rw [← Nat.add_sub_cancel' iAbove, ← Nat.add_sub_cancel' jAbove, shift, shift, same]

theorem pairwise_chunksWithin_iff {steps : Nat} (positive : 0 < size)
    (enough : items.length ≤ steps) :
    ((chunksWithin size steps items).Pairwise fun a b => item ∈ a → item ∉ b) ↔
      InOnePart size items item := by
  induction steps generalizing items with
  | zero =>
    obtain rfl := List.length_eq_zero_iff.1 (Nat.le_zero.1 enough)
    simp [chunksWithin, InOnePart]
  | succ steps ih =>
    cases items with
    | nil => simp [chunksWithin, InOnePart]
    | cons first rest =>
      have fewer : ((first :: rest).drop size).length ≤ steps := by
        rw [List.length_drop]
        omega
      have others := flatten_chunksWithin positive fewer
      rw [chunksWithin, List.pairwise_cons, inOnePart_iff_drop positive, ih fewer]
      · refine and_congr_left fun _ => ⟨fun apart here there => ?_, fun apart part listed here => ?_⟩
        · rw [← others] at there
          obtain ⟨part, listed, there⟩ := List.mem_flatten.1 there
          exact apart part listed here there
        · exact fun there => apart here (others ▸ List.mem_flatten.2 ⟨part, listed, there⟩)
      · simp

/-- Two parts of a list have an item only if it has places in two of them. -/
theorem pairwise_chunks_iff (positive : 0 < size) :
    ((chunks size items).Pairwise fun a b => item ∈ a → item ∉ b) ↔ InOnePart size items item :=
  pairwise_chunksWithin_iff positive (Nat.le_refl _)

theorem inOnePart_of_nodup (distinct : items.Nodup) : InOnePart size items item := by
  intro i j left right
  obtain ⟨inside, -⟩ := List.getElem?_eq_some_iff.1 left
  rw [(List.getElem?_inj inside distinct).1 (left.trans right.symm)]

theorem inOnePart_of_length_le (short : items.length ≤ size) : InOnePart size items item := by
  intro i j left right
  obtain ⟨iInside, -⟩ := List.getElem?_eq_some_iff.1 left
  obtain ⟨jInside, -⟩ := List.getElem?_eq_some_iff.1 right
  rw [Nat.div_eq_of_lt (iInside.trans_le short), Nat.div_eq_of_lt (jInside.trans_le short)]

end Statement

/-- The rows of different objects, one after the other, are read object by object. -/
theorem DecodedObject.ofBatch_flatMap {registry : Registry} {options : ReadOptions}
    {group : String → List Row} (alike : ∀ uri, ∀ row ∈ group uri, row.uri = uri)
    {uris : List String} (distinct : uris.Nodup) :
    ofBatch registry options (uris.flatMap group) =
      (uris.mapM fun uri => ofRows registry options (group uri)).map List.reduceOption := by
  induction uris with
  | nil => rfl
  | cons uri rest ih =>
    obtain ⟨fresh, distinct⟩ := List.nodup_cons.1 distinct
    rw [List.flatMap_cons, List.mapM_cons]
    by_cases none : group uri = []
    · rw [none, List.nil_append, ih distinct]
      cases rest.mapM fun uri => ofRows registry options (group uri) <;> rfl
    · have apart : ∀ row ∈ rest.flatMap group, row.uri ≠ uri := by
        intro row listed same
        obtain ⟨other, member, own⟩ := List.mem_flatMap.1 listed
        exact fresh (same ▸ alike other row own ▸ member)
      rw [ofBatch_append (alike uri) none apart, ih distinct]
      cases ofRows registry options (group uri) with
      | error error => rfl
      | ok decoded =>
        cases rest.mapM fun uri => ofRows registry options (group uri) with
        | error error => rfl
        | ok others => cases decoded <;> rfl

/-- Of some URIs those are left that an object is found for. -/
theorem GraphObject.map_uri_filterMap {found : String → Option GraphObject}
    (own : ∀ uri object, found uri = some object → object.uri = uri) (uris : List String) :
    (uris.filterMap found).map (·.uri) = uris.filter fun uri => (found uri).isSome := by
  induction uris with
  | nil => rfl
  | cons uri rest ih =>
    cases read : found uri with
    | none => simp [read, ih]
    | some object => simp [read, ih, own uri object read]

namespace Record

variable {records : List Record} {uri : String}

/-- Every record of an object can be read as a row. -/
def AreLegible (records : List Record) (uri : String) : Prop :=
  ∀ record ∈ records, record.uri = uri → ∃ row, record.toRow true = .ok row

/-- The rows of those records of an object that can be read. -/
def rowsOf (records : List Record) (uri : String) : List Row :=
  (records.filter (·.uri == uri)).filterMap fun record => (record.toRow true).toOption

/-- What the records of an object are read as. -/
def readObject (registry : Registry) (options : ReadOptions) (records : List Record)
    (uri : String) : Except Error (Option DecodedObject) := do
  DecodedObject.ofRows registry options (← toRows true (records.filter (·.uri == uri)))

/-- The object that is read from its records, if it can be read and is not broken. -/
def objectOf (registry : Registry) (options : ReadOptions) (records : List Record)
    (uri : String) : Option GraphObject :=
  (readObject registry options records uri).toOption.join.map (·.object)

theorem toRows_eq_ok_iff {rows : List Row} :
    toRows true (records.filter (·.uri == uri)) = .ok rows ↔
      AreLegible records uri ∧ rows = rowsOf records uri := by
  rw [toRows_eq_mapM]
  constructor
  · intro read
    refine ⟨fun record listed same => ?_, eq_filterMap_of_mapM read⟩
    obtain ⟨row, -, made⟩ := exists_of_mapM read (List.mem_filter.2 ⟨listed, beq_iff_eq.2 same⟩)
    exact ⟨row, made⟩
  · intro legible
    obtain ⟨legible, rfl⟩ := legible
    have each : ∀ record ∈ records.filter (·.uri == uri), ∃ row, record.toRow true = .ok row := by
      intro record kept
      obtain ⟨listed, same⟩ := List.mem_filter.1 kept
      exact legible record listed (beq_iff_eq.1 same)
    obtain ⟨rows, read⟩ := exists_mapM each
    rw [read, eq_filterMap_of_mapM read, rowsOf]

theorem uri_of_mem_rowsOf {row : Row} (listed : row ∈ rowsOf records uri) : row.uri = uri := by
  obtain ⟨record, kept, read⟩ := List.mem_filterMap.1 listed
  rw [uri_of_toRow (eq_ok_of_toOption read)]
  exact beq_iff_eq.1 (List.mem_filter.1 kept).2

theorem rowsOf_eq_nil (absent : ¬ Hold records uri) : rowsOf records uri = [] := by
  have none : records.filter (·.uri == uri) = [] :=
    List.filter_eq_nil_iff.2 fun record listed same => absent ⟨record, listed, beq_iff_eq.1 same⟩
  rw [rowsOf, none, List.filterMap_nil]

section Read

variable {registry : Registry} {options : ReadOptions}

/-- An object is read once all its records are. -/
theorem readObject_eq_ok {read : Option DecodedObject} :
    readObject registry options records uri = .ok read ↔
      AreLegible records uri ∧
        DecodedObject.ofRows registry options (rowsOf records uri) = .ok read := by
  rw [readObject, bind_eq_ok]
  simp only [toRows_eq_ok_iff]
  constructor
  · intro ran
    obtain ⟨_, ⟨legible, rfl⟩, ran⟩ := ran
    exact ⟨legible, ran⟩
  · intro ran
    obtain ⟨legible, ran⟩ := ran
    exact ⟨_, ⟨legible, rfl⟩, ran⟩

/-- The rows of some objects are read as a batch exactly if each object is read. -/
theorem ofBatch_rowsOf_eq_ok {uris : List String} (distinct : uris.Nodup)
    (legible : ∀ uri ∈ uris, AreLegible records uri) {decoded : List DecodedObject} :
    DecodedObject.ofBatch registry options (uris.flatMap (rowsOf records)) = .ok decoded ↔
      ∃ read, uris.mapM (readObject registry options records) = .ok read ∧
        read.reduceOption = decoded := by
  have each : uris.map (readObject registry options records) =
      uris.map fun uri => DecodedObject.ofRows registry options (rowsOf records uri) := by
    apply List.map_congr_left
    intro uri listed
    cases read : DecodedObject.ofRows registry options (rowsOf records uri) with
    | ok decoded => exact readObject_eq_ok.2 ⟨legible uri listed, read⟩
    | error error => rw [readObject, toRows_eq_ok_iff.2 ⟨legible uri listed, rfl⟩, ok_bind, read]
  rw [DecodedObject.ofBatch_flatMap (fun _ _ => uri_of_mem_rowsOf) distinct, map_eq_ok]
  simp only [mapM_eq_ok, each]

/-- Objects that are read one by one are the ones that are not broken. -/
theorem map_object_of_mapM {uris : List String} {read : List (Option DecodedObject)}
    (ran : uris.mapM (readObject registry options records) = .ok read) :
    read.reduceOption.map (·.object) = uris.filterMap (objectOf registry options records) := by
  rw [eq_filterMap_of_mapM ran, List.reduceOption, List.filterMap_filterMap, List.map_filterMap]
  apply List.filterMap_congr
  intro uri _
  rw [objectOf]
  cases (readObject registry options records uri).toOption with
  | none => rfl
  | some read => rfl

/-- What is read of the records of an object is that object. -/
theorem uri_of_objectOf {object : GraphObject}
    (read : objectOf registry options records uri = some object) : object.uri = uri := by
  rw [objectOf, Option.map_eq_some_iff] at read
  obtain ⟨decoded, read, rfl⟩ := read
  have ran := readObject_eq_ok.1 (eq_ok_of_toOption (Option.join_eq_some_iff.1 read))
  exact DecodedObject.uri_of_ofRows (fun _ => uri_of_mem_rowsOf) ran.2

/-- Where there are no records there is no object. -/
theorem readObject_of_not_hold (absent : ¬ Hold records uri) :
    readObject registry options records uri = .ok none := by
  refine readObject_eq_ok.2 ⟨fun record listed same => absurd ⟨record, listed, same⟩ absent, ?_⟩
  rw [rowsOf_eq_nil absent]
  rfl

theorem hold_of_objectOf {object : GraphObject}
    (read : objectOf registry options records uri = some object) : Hold records uri := by
  by_contra absent
  rw [objectOf, readObject_of_not_hold absent] at read
  cases read

/-- The objects that are read are those whose records are not broken. -/
theorem map_uri_objectOf (uris : List String) :
    (uris.filterMap (objectOf registry options records)).map (·.uri) =
      uris.filter fun uri => (objectOf registry options records uri).isSome :=
  GraphObject.map_uri_filterMap (fun _ _ => uri_of_objectOf) uris

theorem isSome_objectOf_iff : (objectOf registry options records uri).isSome = true ↔
    ∃ decoded, readObject registry options records uri = .ok (some decoded) := by
  rw [objectOf, Option.isSome_map]
  constructor
  · intro some
    obtain ⟨decoded, read⟩ := Option.isSome_iff_exists.1 some
    exact ⟨decoded, eq_ok_of_toOption (Option.join_eq_some_iff.1 read)⟩
  · intro ran
    obtain ⟨decoded, ran⟩ := ran
    rw [ran]
    rfl

/-- Where broken objects are refused, the records of an object are read as it or not at all. -/
theorem isSome_objectOf (strict : options.ignoreBroken = false) (held : Hold records uri)
    {read : Option DecodedObject} (ran : readObject registry options records uri = .ok read) :
    (objectOf registry options records uri).isSome = true := by
  obtain ⟨legible, decoded⟩ := readObject_eq_ok.1 ran
  obtain ⟨record, listed, same⟩ := held
  obtain ⟨row, made⟩ := legible record listed same
  have some : rowsOf records uri ≠ [] := List.ne_nil_of_mem (a := row) (List.mem_filterMap.2
    ⟨record, List.mem_filter.2 ⟨listed, beq_iff_eq.2 same⟩, by rw [made]; rfl⟩)
  obtain ⟨decoded, rfl⟩ := DecodedObject.exists_of_ofRows strict some decoded
  rw [objectOf, ran]
  rfl

end Read

end Record

theorem Select.records_rowsOf (patterns : Patterns) (records : List Record) (table : String)
    (part : List String) (withFullText : Bool) :
    (rowsOf table part withFullText).records patterns records =
      (records.filter fun record => decide (record.uri ∈ part)).mergeSort
        fun a b => a.uri ≤ b.uri := by
  have chosen : records.filter (fun record =>
      (Condition.columnIn .uri part).holds patterns records record) =
        records.filter fun record => decide (record.uri ∈ part) := by
    apply List.filter_congr
    intro record _
    rw [Bool.eq_iff_iff, Condition.holds_columnIn .uri rfl record.cell_uri, decide_eq_true_iff]
  simp only [Select.records, Select.cut, Select.matching, rowsOf, chosen, if_true]
  rfl

section Present

variable {database : Database} {table : String} {records : List Record}
  (present : database.recordsOf table = .ok records)
include present

namespace Fetching

/-- The rows of some objects are fetched if all their records can be read. -/
theorem exists_run_rows_iff {uris : List String} :
    (∃ found, (rows table uris true).run database = .ok found) ↔
      ∀ uri ∈ uris, Record.AreLegible records uri := by
  have asked (part : List String) : (∃ found,
      (askRows true (.rowsOf table part true)).run database = .ok found) ↔
        ∀ uri ∈ part, Record.AreLegible records uri := by
    rw [Loading.run_askRows present rfl, Select.records_rowsOf]
    constructor
    · intro ran uri inside record listed same
      obtain ⟨found, ran⟩ := ran
      obtain ⟨row, -, read⟩ := exists_of_mapM ran (List.mem_mergeSort.2
        (List.mem_filter.2 ⟨listed, decide_eq_true (same ▸ inside)⟩))
      exact ⟨row, read⟩
    · intro legible
      apply exists_mapM
      intro record chosen
      obtain ⟨listed, inside⟩ := List.mem_filter.1 (List.mem_mergeSort.1 chosen)
      exact legible _ (of_decide_eq_true inside) record listed rfl
  have whole := Statement.flatten_chunks (by decide : 0 < Statement.uriBatch) uris
  rw [rows, Dialogue.run_bind]
  constructor
  · intro ran uri listed
    obtain ⟨_, ran⟩ := ran
    obtain ⟨found, fetched, -⟩ := bind_eq_ok.1 ran
    obtain ⟨part, some, inside, ran, -⟩ := exists_part_of_run_forUris fetched listed
    exact (asked part).1 ⟨some, ran⟩ uri inside
  · intro legible
    have each : ∀ part ∈ Statement.chunks Statement.uriBatch uris, ∃ found,
        (askRows true (.rowsOf table part true)).run database = .ok found := fun part isPart =>
      (asked part).2 fun uri inside =>
        legible uri (whole ▸ List.mem_flatten.2 ⟨part, isPart, inside⟩)
    obtain ⟨founds, ran⟩ := exists_mapM each
    rw [forUris, run_inParts, ran]
    exact ⟨_, rfl⟩

variable {uris : List String} {found : List Row}

section Ran

variable (ran : (rows table uris true).run database = .ok found)
include ran

omit present in
theorem sorted_of_run_rows : found.Pairwise fun a b => a.uri ≤ b.uri := by
  rw [rows, Dialogue.run_bind] at ran
  obtain ⟨fetched, -, ran⟩ := bind_eq_ok.1 ran
  obtain rfl := Except.ok.inj ran
  exact pairwise_mergeSort_by Row.uri fetched

/-- The rows of an object are fetched by each statement that asks for it. -/
theorem filter_of_run_rows (uri : String) :
    found.filter (·.uri == uri) = (Statement.chunks Statement.uriBatch uris).flatMap fun part =>
      if uri ∈ part then Record.rowsOf records uri else [] := by
  rw [rows, Dialogue.run_bind] at ran
  obtain ⟨fetched, asked, ran⟩ := bind_eq_ok.1 ran
  obtain rfl := Except.ok.inj ran
  obtain rfl := parts_of_run_forUris (fun part _ asked => by
    rw [Loading.run_askRows present rfl, Select.records_rowsOf] at asked
    exact eq_filterMap_of_mapM asked) asked
  rw [filter_mergeSort_by Row.uri, List.filter_flatMap]
  apply List.flatMap_congr
  intro part _
  rw [filter_filterMap_of fun record row read => by
      rw [Record.uri_of_toRow (eq_ok_of_toOption read)],
    filter_mergeSort_by Record.uri, Record.filter_part]
  split <;> rfl

/-- Only rows that are asked for are fetched. -/
theorem mem_of_run_rows {row : Row} (listed : row ∈ found) : row.uri ∈ uris := by
  have own : row ∈ found.filter (·.uri == row.uri) := List.mem_filter.2 ⟨listed, by simp⟩
  rw [filter_of_run_rows present ran, List.mem_flatMap] at own
  obtain ⟨part, isPart, own⟩ := own
  have whole := Statement.flatten_chunks (by decide : 0 < Statement.uriBatch) uris
  split at own
  next inside => exact whole ▸ List.mem_flatten.2 ⟨part, isPart, inside⟩
  next => cases own

end Ran

/-- The rows of some objects are fetched one object after the other, in ascending order, if no two
statements ask for one that is there. -/
theorem run_rows_eq_ok_iff (once : ∀ uri ∈ uris, Record.Hold records uri →
    Statement.InOnePart Statement.uriBatch uris uri) :
    (rows table uris true).run database = .ok found ↔
      (∀ uri ∈ uris, Record.AreLegible records uri) ∧
        found = (UriSet.ofList uris).flatMap (Record.rowsOf records) := by
  have joined {found : List Row} (ran : (rows table uris true).run database = .ok found) :
      found = (UriSet.ofList uris).flatMap (Record.rowsOf records) := by
    have own (uri : String) (listed : uri ∈ uris) :
        found.filter (·.uri == uri) = Record.rowsOf records uri := by
      rw [filter_of_run_rows present ran]
      by_cases held : Record.Hold records uri
      · have whole := Statement.flatten_chunks (by decide : 0 < Statement.uriBatch) uris
        exact flatMap_of_once ((Statement.pairwise_chunks_iff (by decide)).2
          (once uri listed held)) (whole.symm ▸ listed) _
      · rw [Record.rowsOf_eq_nil held]
        simp
    rw [← flatMap_filter_of_sorted (sorted_of_run_rows ran) (UriSet.ascending_ofList uris)
      fun row listed => UriSet.mem_ofList.2 (mem_of_run_rows present ran listed)]
    exact List.flatMap_congr fun uri listed => own uri (UriSet.mem_ofList.1 listed)
  constructor
  · intro ran
    exact ⟨(exists_run_rows_iff present).1 ⟨found, ran⟩, joined ran⟩
  · intro read
    obtain ⟨legible, rfl⟩ := read
    obtain ⟨found, ran⟩ := (exists_run_rows_iff present).2 legible
    rw [ran, joined ran]

end Fetching

/-- The objects of some URIs are loaded in ascending order, each from its own records, if no two
statements ask for one that is there. -/
theorem StoreScope.load_eq_ok_iff {scope : StoreScope} {uris : List String}
    {objects : List GraphObject} (once : ∀ uri ∈ uris, Record.Hold records uri →
      Statement.InOnePart Statement.uriBatch uris uri) :
    scope.load database table uris = .ok objects ↔
      (∀ uri ∈ uris, ∃ read,
        Record.readObject scope.registry scope.settings.read records uri = .ok read) ∧
      objects = (UriSet.ofList uris).filterMap
        (Record.objectOf scope.registry scope.settings.read records) := by
  have distinct := (UriSet.ascending_ofList uris).nodup
  have among {holds : String → Prop} :
      (∀ uri ∈ UriSet.ofList uris, holds uri) ↔ ∀ uri ∈ uris, holds uri := by
    simp only [UriSet.mem_ofList]
  rw [load]
  constructor
  · intro ran
    obtain ⟨found, fetched, decode⟩ := bind_eq_ok.1 ran
    obtain ⟨decoded, batch, done⟩ := bind_eq_ok.1 decode
    obtain rfl := Except.ok.inj done
    obtain ⟨legible, rfl⟩ := (Fetching.run_rows_eq_ok_iff present once).1 fetched
    obtain ⟨read, each, rfl⟩ := (Record.ofBatch_rowsOf_eq_ok distinct (among.2 legible)).1 batch
    refine ⟨among.1 fun uri listed => ?_, Record.map_object_of_mapM each⟩
    obtain ⟨own, -, ran⟩ := exists_of_mapM each listed
    exact ⟨own, ran⟩
  · intro read
    obtain ⟨readable, rfl⟩ := read
    have legible : ∀ uri ∈ uris, Record.AreLegible records uri := fun uri listed =>
      (Record.readObject_eq_ok.1 (readable uri listed).choose_spec).1
    obtain ⟨read, ran⟩ := exists_mapM (among.2 readable)
    rw [(Fetching.run_rows_eq_ok_iff present once).2 ⟨legible, rfl⟩, ok_bind,
      (Record.ofBatch_rowsOf_eq_ok distinct (among.2 legible)).2 ⟨read, ran, rfl⟩, ok_bind,
      ← Record.map_object_of_mapM ran]
    rfl

end Present

end GraphSegments
