import GraphSegments.Proofs.Search.Acceptance
import GraphSegments.Proofs.Search.Cells
import GraphSegments.Proofs.Search.Echoes
import GraphSegments.Proofs.Search.Fetching
import GraphSegments.Proofs.Search.Questions

/-!
The columns in which the rows of an object repeat its timestamp and its channel, and the rows of the
properties from which they are taken. A column is filled with what the object holds first under the
spelled name of the property, a search of rows looks for what it holds alone under any name that is
now the name of the property. Where the two are the same, a folded criterion and the search agree.
-/

namespace GraphSegments
open Results

namespace Fold

/-- A criterion on its own that a fold can cover has a fold, which says what a row tells of it. -/
theorem exists_ofAnd_property {criterion : PropertyCriterion} {echo : Condition}
    (told : (Criterion.property criterion).echo? = some echo) :
    ∃ fold, ofAnd ⟨.and, [.leaf (.property criterion)]⟩ = .ok (some fold) ∧
      ∀ patterns records record, fold.condition.holds patterns records record = true ↔
        echo.holds patterns records record = true := by
  obtain ⟨fold, made, -, -, asked⟩ := exists_ofAnd_alone told
  refine ⟨fold, made, fun patterns records record => ?_⟩
  rw [asked, Condition.holds_all, List.forall_mem_singleton]

end Fold

namespace Row

/-- Whether the fold of a criterion on its own holds of rows exactly where the search for rows of
its property selects their object. -/
def FoldAgrees (rows : List Row) (patterns : Patterns) (scope : LeafScope)
    (criterion : PropertyCriterion) : Prop :=
  ∃ fold leaf, Fold.ofAnd ⟨.and, [.leaf (.property criterion)]⟩ = .ok (some fold) ∧
    (Criterion.property criterion).leafCondition scope none = .ok leaf ∧
    ∀ row ∈ rows, fold.condition.holds patterns (rows.map .ofRow) (.ofRow row) = true ↔
      leaf.Selects patterns (rows.map .ofRow) row.uri

end Row

namespace GraphObject

section Repeated

variable {registry : Registry} {object : GraphObject} {rows : List Row}
  (written : object.toRows registry = .ok rows) (patterns : Patterns) {scope : LeafScope}
  {criterion : PropertyCriterion} {test : Column → Condition}
  {passes : Affinity → Datum → Prop} (tests : Condition.Tests test passes)
include written tests

/-- For a criterion that the fold and the search make the same test of, on a column that all rows of
an object repeat and on the column of a kind, they agree exactly if what is repeated passes where a
value does that the object holds alone. -/
theorem foldAgrees_iff {column : Column} {kind : ValueKind} {repeated : Datum}
    (told : (Criterion.property criterion).echo? = some (test column))
    (compiled : (Criterion.property criterion).leafCondition scope none =
      .ok (.all [.columnIs .name criterion.property, test (.value kind false)]))
    (plain : Vocabulary.isStructural criterion.property = false)
    (current : versionless criterion.property = criterion.property)
    (repeats : ∀ row ∈ rows, (Record.ofRow row).cell column = repeated) :
    Row.FoldAgrees rows patterns scope criterion ↔
      (passes column.affinity repeated ↔ ∃ value, object.HoldsAlone criterion.property value ∧
        value.kind = kind ∧ passes (Column.value kind false).affinity value.storedDatum) := by
  obtain ⟨fold, made, holds⟩ := Fold.exists_ofAnd_property told
  have folded (row) (member : row ∈ rows) :
      fold.condition.holds patterns (rows.map .ofRow) (.ofRow row) = true ↔
        passes column.affinity repeated := by
    rw [holds, tests.holds, repeats row member]
  have selected (row) (member : row ∈ rows) :
      (Condition.all [.columnIs .name criterion.property, test (.value kind false)]).Selects
          patterns (rows.map .ofRow) row.uri ↔
        ∃ value, object.HoldsAlone criterion.property value ∧ value.kind = kind ∧
          passes (Column.value kind false).affinity value.storedDatum := by
    have own (other) (present : other ∈ rows) : other.uri = row.uri :=
      (repeated_of_mem_toRows written present).1.trans
        (repeated_of_mem_toRows written member).1.symm
    rw [Condition.selects_named patterns tests,
      ← exists_passing_row_iff written (by rwa [current]) kind (tests.nothing _), current]
    exact exists_congr fun other => and_congr_right fun present =>
      and_iff_right (own other present)
  constructor
  · -- Any row will do, and there is one.
    intro agrees
    obtain ⟨_, _, remade, recompiled, agrees⟩ := agrees
    obtain rfl := Option.some.inj (Except.ok.inj (made.symm.trans remade))
    obtain rfl := Except.ok.inj (compiled.symm.trans recompiled)
    obtain ⟨row, member, -⟩ := exists_vitaltype_row written
    rw [← folded row member, agrees row member, selected row member]
  · intro alike
    refine ⟨fold, _, made, compiled, fun row member => ?_⟩
    rw [folded row member, selected row member, alike]

end Repeated

end GraphObject

/-- Nodes and messages can be written with any property. -/
theorem GraphObject.exists_toRows_of_class {type : String}
    (either : type = Vocabulary.nodeClass ∨ type = Vocabulary.messageClass) (property : String)
    (held : PropertyValue) :
    ∃ rows, ((ofClass "urn:a" type).set property held).toRows .core = .ok rows := by
  rcases either with rfl | rfl
  · have valid : (ofClass "urn:a" Vocabulary.nodeClass).validate = .ok () :=
      eq_ok_of_toOption (by decide +kernel)
    have described : (ofClass "urn:a" Vocabulary.nodeClass).ontology? .core =
        some ⟨Vocabulary.coreDomain, Registry.coreVersion, none, []⟩ := by decide +kernel
    exact ⟨_, toRows_eq_ok.2 ⟨valid, _, described, rfl⟩⟩
  · have valid : (ofClass "urn:a" Vocabulary.messageClass).validate = .ok () :=
      eq_ok_of_toOption (by decide +kernel)
    have described : (ofClass "urn:a" Vocabulary.messageClass).ontology? .core =
        some ⟨Vocabulary.messageDomain, Registry.coreVersion, none, [Vocabulary.coreDomain]⟩ := by
      decide +kernel
    exact ⟨_, toRows_eq_ok.2 ⟨valid, _, described, rfl⟩⟩

/-! The timestamp. -/

/-- A timestamp is read back from its column as it is. -/
theorem Record.optional_instant (stamp : Option Int64) :
    optional (whole 64) ((stamp.map fun instant => Datum.int instant.toInt).getD .null) =
      .ok (stamp.map (·.toInt)) := by
  cases stamp with
  | none => rfl
  | some instant =>
    have within : -Nat.pow 2 63 ≤ instant.toInt ∧ instant.toInt < Nat.pow 2 63 :=
      ⟨instant.le_toInt, instant.toInt_lt⟩
    have read : whole 64 (.int instant.toInt) = .ok instant.toInt := if_pos within
    simp only [Option.map_some, Option.getD_some, optional, read, ok_bind]
    rfl

/-- A row fills the column of single longs with nothing but a single long. -/
theorem Record.cell_long_eq_int {row : Row} {instant : Int64} :
    (ofRow row).cell (.value .long false) = .int instant.toInt ↔
      row.value = .long instant ∧ row.multi = false := by
  rw [cell_value]
  cases value : row.value with
  | long other =>
    have datum : (Value.long other).datum = .int other.toInt := rfl
    cases multi : row.multi <;> simp [Value.kind, datum, Int64.toInt_inj]
  | _ => simp [Value.kind]

/-- Compares the timestamp with a bound. -/
def PropertyCriterion.timestampBound (comparator : Comparator) (bound : Int64) :
    PropertyCriterion :=
  ⟨Vocabulary.hasTimestamp, comparator, some (.single (.long bound)), false, false, []⟩

namespace GraphObject

/-- Whether the timestamp that rows repeat is all that the object holds alone as a timestamp. -/
def MirrorsTimestamp (object : GraphObject) : Prop :=
  ∀ instant, object.timestamp? = some instant ↔
    object.HoldsAlone Vocabulary.hasTimestamp (.long instant)

theorem mirrorsTimestamp_of_plainly {object : GraphObject}
    (plainly : object.HoldsPlainly Vocabulary.hasTimestamp Value.instant? .long) :
    object.MirrorsTimestamp :=
  plainly.read_iff versionless_hasTimestamp fun _ => rfl

/-- It is enough that bounds from below and from above cannot tell the two apart. -/
theorem mirrorsTimestamp_of_bounds {object : GraphObject}
    (alike : ∀ comparison : Comparison, comparison = .ge ∨ comparison = .le → ∀ bound : Int64,
      (∃ instant, object.timestamp? = some instant ∧
          comparison.accepts (Ord.compare instant.toInt bound.toInt) = true) ↔
        ∃ instant, object.HoldsAlone Vocabulary.hasTimestamp (.long instant) ∧
          comparison.accepts (Ord.compare instant.toInt bound.toInt) = true) :
    object.MirrorsTimestamp := by
  have atLeast := alike .ge (.inl rfl)
  have atMost := alike .le (.inr rfl)
  simp only [Comparison.accepts, bne_iff_ne, ne_eq, Int.compare_eq_lt, Int.compare_eq_gt,
    Int.not_lt] at atLeast atMost
  -- What is held meets itself as a bound from both sides, so the timestamp does.
  have stamped_of_holds {held : Int64}
      (holds : object.HoldsAlone Vocabulary.hasTimestamp (.long held)) :
      object.timestamp? = some held := by
    obtain ⟨instant, stamped, above⟩ := (atLeast held).2 ⟨held, holds, Int.le_refl _⟩
    obtain ⟨same, again, below⟩ := (atMost held).2 ⟨held, holds, Int.le_refl _⟩
    obtain rfl := Option.some.inj (stamped.symm.trans again)
    obtain rfl := Int64.toInt_inj.1 (Int.le_antisymm below above)
    exact stamped
  refine fun instant => ⟨fun stamped => ?_, stamped_of_holds⟩
  obtain ⟨held, holds, -⟩ := (atLeast instant).1 ⟨instant, stamped, Int.le_refl _⟩
  obtain rfl := Option.some.inj (stamped.symm.trans (stamped_of_holds holds))
  exact holds

section Written

variable {registry : Registry} {object : GraphObject} {rows : List Row}
  (written : object.toRows registry = .ok rows)
include written

theorem cell_tstamp_of_mem_toRows {row : Row} (member : row ∈ rows) :
    (Record.ofRow row).cell .tstamp =
      (object.timestamp?.map fun instant => Datum.int instant.toInt).getD .null := by
  rw [Record.cell_tstamp, (repeated_of_mem_toRows written member).2.2.1]

/-- A folded bound and the search agree exactly if the bound tells the timestamp in the column and
those that the object holds alone alike. -/
theorem foldAgrees_timestampBound_iff
    (keeps : registry.property? Vocabulary.hasTimestamp =
      Registry.core.property? Vocabulary.hasTimestamp) (patterns : Patterns) (dialect : Dialect)
    {comparator : Comparator} {comparison : Comparison}
    (compares : comparator.bound? = some comparison) (bound : Int64) :
    Row.FoldAgrees rows patterns ⟨registry, dialect⟩ (.timestampBound comparator bound) ↔
      ((∃ instant, object.timestamp? = some instant ∧
          comparison.accepts (Ord.compare instant.toInt bound.toInt) = true) ↔
        ∃ instant, object.HoldsAlone Vocabulary.hasTimestamp (.long instant) ∧
          comparison.accepts (Ord.compare instant.toInt bound.toInt) = true) := by
  have registered : registry.property? Vocabulary.hasTimestamp =
      some ⟨Vocabulary.hasTimestamp, .long, false, none, Vocabulary.coreDomain⟩ :=
    keeps.trans (by decide)
  have told : (Criterion.property (.timestampBound comparator bound)).echo? =
      some (.compare (.plain .tstamp) comparison (.i64 (some bound.toInt))) := by
    have other : Vocabulary.hasTimestamp ≠ Vocabulary.hasChannel := by decide
    simp only [Criterion.echo?, PropertyCriterion.timestampBound, if_neg other, if_pos, compares]
    rfl
  have operand : (PropertyCriterion.timestampBound comparator bound).values.head?.bind
      Fold.Progress.instant? = some bound := rfl
  obtain ⟨first, rest, values, tested, -⟩ :=
    Fold.exists_timestamp_test ⟨registry, dialect⟩ operand compares
  obtain ⟨rfl, rfl⟩ := List.cons_eq_cons.1 values
  have compiled := PropertyCriterion.leafCondition_of_test registered rfl
    (Comparator.takesValue_of_bound? compares) values (Comparator.supports_of_bound? compares) rfl
    versionless_hasTimestamp tested
  have plain : Vocabulary.isStructural Vocabulary.hasTimestamp = false := by decide
  refine (foldAgrees_iff written patterns
    (Condition.tests_compare comparison (.i64 (some bound.toInt))) told compiled plain
    versionless_hasTimestamp fun row => cell_tstamp_of_mem_toRows written).trans (iff_congr ?_ ?_)
  · cases object.timestamp? with
    | none => simp [Condition.passes, Datum.order]
    | some instant =>
      simp only [Option.some.injEq, exists_eq_left']
      rfl
  · constructor
    · intro passed
      obtain ⟨value, holds, kind, passed⟩ := passed
      cases value with
      | long instant => exact ⟨instant, holds, passed⟩
      | _ => exact absurd kind (by simp [Value.kind])
    · intro passed
      obtain ⟨instant, holds, passed⟩ := passed
      exact ⟨.long instant, holds, rfl, passed⟩

/-- In a table of its rows alone, the rows of an object are all rows. -/
theorem filter_own :
    (rows.map .ofRow).filter (fun record : Record => record.uri == object.uri) =
      rows.map .ofRow := by
  refine List.filter_eq_self.2 fun record listed => ?_
  obtain ⟨row, member, rfl⟩ := List.mem_map.1 listed
  exact beq_iff_eq.2 (repeated_of_mem_toRows written member).1

/-- The sort by timestamp fetches for an object the timestamp that its rows repeat. -/
theorem run_timestampValues {database : Database} {table : String} {records : List Record}
    (present : database.recordsOf table = .ok records)
    (own : records.filter (·.uri == object.uri) = rows.map .ofRow) :
    (Loading.timestampValues table [object.uri]).run database =
      .ok (object.timestamp?.map fun instant => (object.uri, .long instant)).toList := by
  -- All rows repeat one pair, of which the query asks for the different ones.
  have repeated : (((records.filter fun record => decide (record.uri ∈ [object.uri])).map
      fun record => (record.uri, record.tstamp)).eraseDups) =
        [(object.uri,
          (object.timestamp?.map fun instant => Datum.int instant.toInt).getD .null)] := by
    have alone : (records.filter fun record => decide (record.uri ∈ [object.uri])) =
        rows.map .ofRow := by
      rw [← own]
      refine List.filter_congr fun record _ => ?_
      rw [Bool.eq_iff_iff]
      simp
    obtain ⟨row, member, -⟩ := exists_vitaltype_row written
    rw [alone, List.map_map]
    refine Lists.eraseDups_of_alike _ (fun row member => ?_) (List.ne_nil_of_mem member)
    exact Prod.ext (repeated_of_mem_toRows written member).1
      (cell_tstamp_of_mem_toRows written member)
  have selected : ((Select.timestamps table [object.uri]).records database.patterns records).map
      (fun record => (record.uri, record.tstamp)) = _ :=
    Loading.map_records_timestamps database.patterns [object.uri]
  rw [repeated, List.map_eq_singleton_iff] at selected
  obtain ⟨record, asked, same⟩ := selected
  obtain ⟨uri, tstamp⟩ := Prod.mk.inj same
  have stamped : Fetching.timestamp record =
      .ok (object.uri, object.timestamp?.map (·.toInt)) := by
    rw [Fetching.timestamp, tstamp, Record.optional_instant, uri]
    rfl
  have part : (do
      let records ← Dialogue.askRecords (.timestamps table [object.uri])
      Dialogue.ofExcept (records.mapM Fetching.timestamp)).run database =
        .ok [(object.uri, object.timestamp?.map (·.toInt))] := by
    have there : (Select.timestamps table [object.uri]).table = table := rfl
    rw [Dialogue.run_bind, Dialogue.run_askRecords, there, present]
    change (Dialogue.ofExcept (((Select.timestamps table [object.uri]).records _ _).mapM _)).run
      database = _
    rw [asked, Dialogue.run_ofExcept, List.mapM_cons, stamped]
    rfl
  have fetched : (Fetching.timestamps table [object.uri]).run database =
      .ok [(object.uri, object.timestamp?.map (·.toInt))] :=
    Fetching.run_forUris_eq_ok.2 ⟨[_], congrArg (fun answer => [answer]) part, rfl⟩
  rw [Loading.timestampValues, Dialogue.run_bind, fetched, ok_bind]
  cases object.timestamp? with
  | none => rfl
  | some instant =>
    have back : Int64.ofInt instant.toInt = instant := instant.ofInt_toInt
    exact congrArg (fun stamp => Except.ok [(object.uri, Value.long stamp)]) back

/-- The rows of the timestamp property that hold a single long are those of what the object holds
alone. -/
theorem exists_instant_row_iff {instant : Int64} :
    (∃ row ∈ rows, row.name = Vocabulary.hasTimestamp ∧ row.value = .long instant ∧
        row.multi = false) ↔
      object.HoldsAlone Vocabulary.hasTimestamp (.long instant) := by
  have plain : Vocabulary.isStructural (versionless Vocabulary.hasTimestamp) = false := by decide
  let passes (datum : Datum) : Prop := datum = .int instant.toInt
  have nothing : ¬ passes .null := by simp [passes]
  have passing := exists_passing_row_iff written plain .long nothing
  simp only [passes, versionless_hasTimestamp, Record.cell_long_eq_int] at passing
  rw [passing]
  constructor
  · intro holds
    obtain ⟨value, holds, kind, same⟩ := holds
    cases value with
    | long other =>
      obtain rfl := Int64.toInt_inj.1 (Datum.int.inj same)
      exact holds
    | _ => exact absurd kind (by simp [Value.kind])
  · exact fun holds => ⟨_, holds, rfl, rfl⟩

/-- The column of the timestamp mirrors the timestamp property exactly if the timestamp that it
repeats is what the object holds alone under the names of the property: exactly then a folded bound
of the timestamp says the same as a search for rows of the property, and exactly then the sort by
timestamp fetches what those rows hold. This is so where the object spells the property in the
current vocabulary and holds one long there, or nothing that could be a timestamp. -/
theorem timestamp_column_mirrors_iff
    (keeps : registry.property? Vocabulary.hasTimestamp =
      Registry.core.property? Vocabulary.hasTimestamp) (patterns : Patterns) (dialect : Dialect)
    {database : Database} {table : String} {records : List Record}
    (present : database.recordsOf table = .ok records)
    (own : records.filter (·.uri == object.uri) = rows.map .ofRow) :
    ((∀ (comparator : Comparator) (bound : Int64), comparator.bound?.isSome = true →
        Row.FoldAgrees rows patterns ⟨registry, dialect⟩ (.timestampBound comparator bound)) ↔
      object.MirrorsTimestamp) ∧
    ((∃ values, (Loading.timestampValues table [object.uri]).run database = .ok values ∧
        ∀ instant, (object.uri, .long instant) ∈ values ↔
          ∃ row ∈ rows, row.name = Vocabulary.hasTimestamp ∧ row.value = .long instant ∧
            row.multi = false) ↔
      object.MirrorsTimestamp) ∧
    (object.HoldsPlainly Vocabulary.hasTimestamp Value.instant? .long →
      object.MirrorsTimestamp) := by
  have agrees := @foldAgrees_timestampBound_iff _ _ _ written keeps patterns dialect
  refine ⟨⟨fun all => mirrorsTimestamp_of_bounds fun comparison either bound => ?_,
    fun mirrors comparator bound compares => ?_⟩, ?_, mirrorsTimestamp_of_plainly⟩
  · rcases either with rfl | rfl
    · exact (agrees rfl bound).1 (all .ge bound rfl)
    · exact (agrees rfl bound).1 (all .le bound rfl)
  · obtain ⟨comparison, compares⟩ := Option.isSome_iff_exists.1 compares
    exact (agrees compares bound).2 (by simp only [mirrors _])
  · rw [run_timestampValues written present own]
    simp [exists_instant_row_iff written, MirrorsTimestamp]

end Written

/-- A timestamp under the current name of its property is mirrored. -/
theorem timestamp_column_mirrors_iff_seven :
    let object := (ofClass "urn:a" Vocabulary.nodeClass).set Vocabulary.hasTimestamp
      (.single (.long 7))
    ∃ rows, object.toRows .core = .ok rows ∧ ∀ patterns,
      Row.FoldAgrees rows patterns ⟨.core, .sqlite⟩ (.timestampBound .ge 5) ∧
      ∃ values, (Loading.timestampValues "nodes" ["urn:a"]).run
          (Database.ofTable "nodes" (rows.map .ofRow)) = .ok values ∧
        ∀ instant, ("urn:a", .long instant) ∈ values ↔
          ∃ row ∈ rows, row.name = Vocabulary.hasTimestamp ∧ row.value = .long instant ∧
            row.multi = false := by
  intro object
  obtain ⟨rows, written⟩ := exists_toRows_of_class (.inl rfl) Vocabulary.hasTimestamp
    (.single (.long 7))
  refine ⟨rows, written, fun patterns => ?_⟩
  obtain ⟨folds, sorts, plainly⟩ := timestamp_column_mirrors_iff written rfl patterns .sqlite
    (Database.recordsOf_ofTable "nodes" _) (filter_own written)
  have mirrors : object.MirrorsTimestamp := plainly fun name held entry _ => by
    obtain ⟨rfl, rfl⟩ := Prod.mk.inj (List.mem_singleton.1 entry)
    exact ⟨rfl, fun instant read => Option.some.inj read ▸ rfl⟩
  exact ⟨folds.2 mirrors .ge 5 rfl, sorts.2 mirrors⟩

/-- A timestamp under an older name of its property has its row, but no place in the column. -/
theorem older_timestamp_is_not_mirrored :
    let object := (ofClass "urn:a" Vocabulary.nodeClass).set
      "http://vital.ai/ontology/vital-core_v0_1_0#hasTimestamp" (.single (.long 7))
    ∃ rows, object.toRows .core = .ok rows ∧ ∀ patterns,
      ¬ Row.FoldAgrees rows patterns ⟨.core, .sqlite⟩ (.timestampBound .ge 5) ∧
      (Loading.timestampValues "nodes" ["urn:a"]).run
        (Database.ofTable "nodes" (rows.map .ofRow)) = .ok [] ∧
      ∃ row ∈ rows, row.name = Vocabulary.hasTimestamp ∧ row.value = .long 7 ∧
        row.multi = false := by
  intro object
  obtain ⟨rows, written⟩ := exists_toRows_of_class (.inl rfl)
    "http://vital.ai/ontology/vital-core_v0_1_0#hasTimestamp" (.single (.long 7))
  have holds : object.HoldsAlone Vocabulary.hasTimestamp (.long 7) :=
    ⟨_, List.mem_singleton_self _, by decide +kernel⟩
  have unstamped : object.timestamp? = none := by decide +kernel
  refine ⟨rows, written, fun patterns => ⟨fun agrees => ?_, ?_,
    (exists_instant_row_iff written).2 holds⟩⟩
  · obtain ⟨instant, stamped, -⟩ :=
      ((foldAgrees_timestampBound_iff written rfl patterns .sqlite rfl 5).1 agrees).2
        ⟨7, holds, by decide⟩
    exact absurd (stamped.symm.trans unstamped) (by simp)
  · have fetched := run_timestampValues written (Database.recordsOf_ofTable "nodes" _)
      (filter_own written)
    rwa [unstamped] at fetched

/-! The channel. -/

end GraphObject

/-- A criterion that compares the channel with URIs by membership, in normal form and without
descendants of the property. -/
structure PropertyCriterion.ComparesChannel (criterion : PropertyCriterion) : Prop where
  normal : criterion.IsNormal
  property : criterion.property = Vocabulary.hasChannel
  membership : criterion.comparator.isMembership = true
  unexpanded : criterion.expanded = []
  channels : ∀ value ∈ criterion.values, ∃ uri, value = .uri uri

namespace GraphObject

/-- Whether the channel that rows repeat is all that the object holds alone as a channel, in the
current vocabulary. -/
def MirrorsChannel (object : GraphObject) (registry : Registry) : Prop :=
  ∀ channel, object.channel? registry = some channel ↔
    ∃ uri, object.HoldsAlone Vocabulary.hasChannel (.uri uri) ∧ versionless uri = channel

theorem mirrorsChannel_of_plainly {registry : Registry} {object : GraphObject}
    (message : registry.isSubclassOf (versionless object.vitaltype) Vocabulary.messageClass = true)
    (plainly : object.HoldsPlainly Vocabulary.hasChannel Value.text? .uri) :
    object.MirrorsChannel registry := by
  have read := plainly.read_iff versionless_hasChannel fun _ => rfl
  intro channel
  rw [channel?, if_pos message, Option.map_eq_some_iff]
  exact exists_congr fun uri => and_congr_left fun _ => read uri

/-- A criterion on the channel is one test, of the column that rows repeat when it is folded and of
the column of URIs when rows of the property are searched. -/
theorem exists_test_of_comparesChannel {registry : Registry} {criterion : PropertyCriterion}
    (keeps : registry.property? Vocabulary.hasChannel =
      Registry.core.property? Vocabulary.hasChannel) (dialect : Dialect)
    (compares : criterion.ComparesChannel) :
    ∃ test passes, Condition.Tests test passes ∧
      (Criterion.property criterion).echo? = some (test .channel) ∧
      (Criterion.property criterion).leafCondition ⟨registry, dialect⟩ none =
        .ok (.all [.columnIs .name criterion.property, test (.value .uri false)]) := by
  obtain ⟨normal, same, membership, unexpanded, channels⟩ := compares
  obtain ⟨first, rest, test, passes, values, tests, tested, channel⟩ :=
    Fold.exists_channel_test ⟨registry, dialect⟩ normal membership channels
  have registered : registry.property? criterion.property =
      some ⟨Vocabulary.hasChannel, .uri, false, none, Vocabulary.messageDomain⟩ := by
    rw [same]
    exact keeps.trans (by decide)
  have supported : ValueKind.uri.supports criterion.comparator = true := by
    simp [ValueKind.supports, membership]
  refine ⟨test, passes, tests, ?_, PropertyCriterion.leafCondition_of_test registered rfl
    (Comparator.takesValue_of_isMembership membership) values supported unexpanded
    (same ▸ versionless_hasChannel) tested⟩
  rw [Criterion.echo?, if_pos same, if_pos membership, channel]

section Written

variable {registry : Registry} {object : GraphObject} {rows : List Row}
  (written : object.toRows registry = .ok rows)
  (keeps : registry.property? Vocabulary.hasChannel =
    Registry.core.property? Vocabulary.hasChannel)
  (patterns : Patterns) (dialect : Dialect) {criterion : PropertyCriterion}
  (compares : criterion.ComparesChannel)
include written

theorem cell_channel_of_mem_toRows {row : Row} (member : row ∈ rows) :
    (Record.ofRow row).cell .channel = ((object.channel? registry).map Datum.text).getD .null := by
  rw [Record.cell_channel, (repeated_of_mem_toRows written member).2.2.2]

include keeps compares

theorem foldAgrees_of_mirrorsChannel (mirrors : object.MirrorsChannel registry) :
    Row.FoldAgrees rows patterns ⟨registry, dialect⟩ criterion := by
  obtain ⟨test, passes, tests, told, compiled⟩ :=
    exists_test_of_comparesChannel keeps dialect compares
  have same := compares.property
  have plain : Vocabulary.isStructural criterion.property = false := same ▸ by decide
  refine (foldAgrees_iff written patterns tests told compiled plain
    (same ▸ versionless_hasChannel) fun row => cell_channel_of_mem_toRows written).2 ?_
  rw [same]
  constructor
  · intro passed
    cases sent : object.channel? registry with
    | none => exact absurd passed (by simpa [sent] using tests.nothing _)
    | some channel =>
      obtain ⟨uri, holds, rfl⟩ := (mirrors channel).1 sent
      rw [sent] at passed
      exact ⟨.uri uri, holds, rfl, passed⟩
  · intro passed
    obtain ⟨value, holds, kind, passed⟩ := passed
    cases value with
    | uri uri =>
      rw [(mirrors (versionless uri)).2 ⟨uri, holds, rfl⟩]
      exact passed
    | _ => exact absurd kind (by simp [Value.kind])

/-- The column of the channel is kept for messages alone: of other objects no row satisfies a folded
criterion on the channel. Where a message spells its channel property in the current vocabulary and
holds one URI there, or nothing that could be a channel, a folded criterion says the same as a
search for rows of the property. -/
theorem channel_column_mirrors :
    (registry.isSubclassOf (versionless object.vitaltype) Vocabulary.messageClass = false →
      ∃ fold, Fold.ofAnd ⟨.and, [.leaf (.property criterion)]⟩ = .ok (some fold) ∧
        ∀ row ∈ rows, fold.condition.holds patterns (rows.map .ofRow) (.ofRow row) = false) ∧
    (registry.isSubclassOf (versionless object.vitaltype) Vocabulary.messageClass = true →
      object.HoldsPlainly Vocabulary.hasChannel Value.text? .uri →
      Row.FoldAgrees rows patterns ⟨registry, dialect⟩ criterion) := by
  refine ⟨fun other => ?_, fun message plainly => foldAgrees_of_mirrorsChannel written keeps
    patterns dialect compares (mirrorsChannel_of_plainly message plainly)⟩
  obtain ⟨test, passes, tests, told, -⟩ := exists_test_of_comparesChannel keeps dialect compares
  obtain ⟨fold, made, holds⟩ := Fold.exists_ofAnd_property told
  have silent : object.channel? registry = none := if_neg (by simp [other])
  refine ⟨fold, made, fun row member => Bool.eq_false_iff.2 fun passed => ?_⟩
  rw [holds] at passed
  exact tests.cell_ne_null passed (by rw [cell_channel_of_mem_toRows written member, silent]; rfl)

end Written

/-- The channel of a message is mirrored, and a node has none in the column. -/
theorem channel_column_mirrors_both :
    let criterion : PropertyCriterion :=
      ⟨Vocabulary.hasChannel, .eq, some (.single (.uri "urn:c")), false, false, []⟩
    let sent (type : String) := (ofClass "urn:a" type).set Vocabulary.hasChannel
      (.single (.uri "urn:c"))
    (∃ rows, (sent Vocabulary.messageClass).toRows .core = .ok rows ∧ ∀ patterns,
      Row.FoldAgrees rows patterns ⟨.core, .sqlite⟩ criterion) ∧
    ∃ rows, (sent Vocabulary.nodeClass).toRows .core = .ok rows ∧ ∀ patterns,
      ∃ fold, Fold.ofAnd ⟨.and, [.leaf (.property criterion)]⟩ = .ok (some fold) ∧
        ∀ row ∈ rows, fold.condition.holds patterns (rows.map .ofRow) (.ofRow row) = false := by
  intro criterion sent
  have compares : criterion.ComparesChannel :=
    ⟨⟨rfl, rfl⟩, rfl, rfl, rfl, fun value listed => ⟨_, List.mem_singleton.1 listed⟩⟩
  obtain ⟨rows, message⟩ := exists_toRows_of_class (.inr rfl) Vocabulary.hasChannel
    (.single (.uri "urn:c"))
  obtain ⟨others, node⟩ := exists_toRows_of_class (.inl rfl) Vocabulary.hasChannel
    (.single (.uri "urn:c"))
  refine ⟨⟨rows, message, fun patterns => ?_⟩, others, node, fun patterns => ?_⟩
  · refine (channel_column_mirrors message rfl patterns .sqlite compares).2 (by decide +kernel) ?_
    intro name held entry _
    obtain ⟨rfl, rfl⟩ := Prod.mk.inj (List.mem_singleton.1 entry)
    exact ⟨rfl, fun uri read => Option.some.inj read ▸ rfl⟩
  · exact (channel_column_mirrors node rfl patterns .sqlite compares).1 (by decide +kernel)

/-- A node holds a channel like any other property, but has no place for it in the column. -/
theorem channel_of_node_is_not_mirrored :
    let criterion : PropertyCriterion :=
      ⟨Vocabulary.hasChannel, .eq, some (.single (.uri "urn:c")), false, false, []⟩
    let object := (ofClass "urn:a" Vocabulary.nodeClass).set Vocabulary.hasChannel
      (.single (.uri "urn:c"))
    ∃ rows, object.toRows .core = .ok rows ∧ ∀ patterns,
      ¬ Row.FoldAgrees rows patterns ⟨.core, .sqlite⟩ criterion := by
  intro criterion object
  obtain ⟨rows, written⟩ := exists_toRows_of_class (.inl rfl) Vocabulary.hasChannel
    (.single (.uri "urn:c"))
  have silent : object.channel? .core = none := by decide +kernel
  let test (column : Column) : Condition := .compare (.plain column) .eq (.ofText "urn:c")
  have told : (Criterion.property criterion).echo? = some (test .channel) := rfl
  have registered : Registry.core.property? criterion.property =
      some ⟨Vocabulary.hasChannel, .uri, false, none, Vocabulary.messageDomain⟩ := by decide
  have tested (column : Column) : PropertyCriterion.comparison ⟨.core, .sqlite⟩
      criterion.comparator column (.uri "urn:c") [.uri "urn:c"] = .ok (test column) := rfl
  have compiled := PropertyCriterion.leafCondition_of_test registered rfl rfl rfl rfl rfl
    versionless_hasChannel tested
  refine ⟨rows, written, fun patterns agrees => ?_⟩
  have same := (foldAgrees_iff written patterns (Condition.tests_compare .eq (.ofText "urn:c")) told
    compiled (by decide) versionless_hasChannel fun row => cell_channel_of_mem_toRows written).1
      agrees
  have passed := same.2 ⟨.uri "urn:c", ⟨_, List.mem_singleton_self _, rfl⟩, rfl, rfl⟩
  rw [silent] at passed
  exact (Condition.tests_compare .eq (.ofText "urn:c")).nothing _ passed

end GraphObject

end GraphSegments
