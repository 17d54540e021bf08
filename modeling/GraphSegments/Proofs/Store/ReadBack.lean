import GraphSegments.Proofs.Search.Fetching
import GraphSegments.Proofs.Store.Consistency
import GraphSegments.Proofs.Table.Readability

/-!
What a store accepts it gives back, as long as the reader asks for nothing that the writer leaves
open: an object that was saved is found again exactly if its version is accepted, its class is
registered where it is read and its properties are admitted.
-/

namespace GraphSegments
open Results

/-- An object is found as its rows are read. -/
theorem StoreScope.get_eq {scope : StoreScope} {database : Database} {segment : Segment}
    {records : List Record} {uri : String} {rows : List Row}
    (there : scope.hasSegment database segment = true)
    (present : database.recordsOf (scope.table segment) = .ok records)
    (read : Record.toRows true (records.filter (·.uri == uri)) = .ok rows) :
    scope.get database [segment] uri =
      (DecodedObject.ofRows scope.registry scope.settings.read rows).map
        (Option.map (·.object)) := by
  have loaded : scope.load database (scope.table segment) [uri] =
      (DecodedObject.ofRows scope.registry scope.settings.read rows).map fun decoded =>
        decoded.toList.map (·.object) := by
    rw [load, Loading.run_rows_singleton present read, ok_bind,
      DecodedObject.ofBatch_of_alike (Record.uri_of_toRows read)]
    cases DecodedObject.ofRows scope.registry scope.settings.read rows <;> rfl
  rw [get, getBatch, poolTables_singleton there]
  simp only [loadFrom, List.isEmpty_cons, Bool.false_eq_true, if_false, loaded]
  cases DecodedObject.ofRows scope.registry scope.settings.read rows with
  | error error => rfl
  | ok decoded => cases decoded <;> simp [Except.map]

namespace StoreScope

variable {scope : StoreScope} {database next : Database} {target : Segment} {object : GraphObject}

theorem hasSegment_setRecords (scope : StoreScope) (database : Database) (table : String)
    (records : List Record) (segment : Segment) :
    scope.hasSegment (database.setRecords table records) segment =
      scope.hasSegment database segment := by
  have names : (database.setRecords table records).tableNames = database.tableNames := by
    simp [Database.tableNames, Database.setRecords]
  rw [hasSegment, segmentTables, names]
  rfl

/-- Once an object is saved, it is found as its rows are read, with their values as the columns of
the table keep them. -/
theorem get_of_save {pool : List Segment} (fits : object.FitsTable)
    (saved : scope.save database target [object] pool = .ok next) :
    ∃ rows, object.toRows scope.registry = .ok rows ∧
      scope.get next [target] object.uri =
        (DecodedObject.ofRows scope.registry scope.settings.read
          (rows.map (Row.withStored Value.storedKept))).map (Option.map (·.object)) := by
  obtain ⟨records, _, there, present, written, rfl⟩ := save_eq_ok (List.cons_ne_nil _ _) saved
  obtain ⟨rows, own, written⟩ := bind_eq_ok.1 written
  obtain rfl := Except.ok.inj written
  obtain ⟨-, ontology, -, made⟩ := GraphObject.toRows_eq_ok.1 own
  have mine : ∀ row ∈ rows, row.uri = object.uri := fun _ listed =>
    (GraphObject.repeated_of_mem_toRows own listed).1
  have present := Database.recordsOf_setRecords present
    (Record.without [object.uri] records ++ rows.map Record.ofRow)
  refine ⟨rows, own, get_eq (hasSegment_setRecords .. |>.trans there) (by simpa using present) ?_⟩
  have others : (Record.without [object.uri] records).filter (·.uri == object.uri) = [] := by
    rw [List.filter_eq_nil_iff]
    intro record kept
    simpa using (List.mem_filter.1 kept).2
  have all : (rows.map Record.ofRow).filter (·.uri == object.uri) = rows.map Record.ofRow := by
    rw [List.filter_eq_self, List.forall_mem_map]
    exact fun row listed => by simp [Record.ofRow, mine row listed]
  rw [List.filter_append, others, all, List.nil_append]
  exact Record.toRows_map_ofRow fun row listed => fits.isNan_eq_false made listed

end StoreScope

namespace Store

section Saved

variable {store saved settled : Store} {transaction : Option String} {target : Segment}
  {object : GraphObject} {pool : List Segment} {objects : List GraphObject}
  (fits : object.FitsTable)
  (saves : store.save transaction target [object] pool = (.ok objects, saved))
  (settles : saved.settle transaction = (.ok (), settled))
include fits saves settles

/-- Once an object is saved and that is settled, it is found as its rows are read. -/
theorem get_of_save :
    ∃ rows, object.toRows store.scope.registry = .ok rows ∧
      settled.scope.get settled.database [target] object.uri =
        (DecodedObject.ofRows store.scope.registry store.scope.settings.read
          (rows.map (Row.withStored Value.storedKept))).map (Option.map (·.object)) := by
  rw [save, if_neg (by simp)] at saves
  obtain ⟨scope, database, changed⟩ := exists_change_of_settle (fun _ _ _ _ done => by
    obtain ⟨_, -, done⟩ := bind_eq_ok.1 done
    exact (Prod.mk.inj (Prod.mk.inj (Except.ok.inj done)).2).2.symm) saves settles
  obtain ⟨next, ran, same⟩ := bind_eq_ok.1 changed
  obtain ⟨-, rfl⟩ : _ ∧ next = settled.database := by simpa using Except.ok.inj same
  rw [scope]
  exact StoreScope.get_of_save fits ran

/-- Once an object is saved, and the transaction in which that was done is committed, if it was
done in one, the object is found in its segment exactly if it meets what is asked of it there. -/
theorem exists_get_of_save :
    (∃ read, settled.scope.get settled.database [target] object.uri = .ok (some read) ∧
      read.uri = object.uri) ↔
        object.IsReadable store.scope.registry store.scope.settings.read := by
  obtain ⟨rows, written, found⟩ := get_of_save fits saves settles
  have mine : ∀ row ∈ rows.map (Row.withStored Value.storedKept), row.uri = object.uri := by
    rw [List.forall_mem_map]
    exact fun _ listed => (GraphObject.repeated_of_mem_toRows written listed).1
  rw [found, ← fits.exists_ofRows_kept_iff written]
  constructor
  · intro read
    obtain ⟨object', read, -⟩ := read
    obtain ⟨decoded, read, here⟩ := map_eq_ok.1 read
    obtain ⟨decoded, rfl, -⟩ := Option.map_eq_some_iff.1 here
    exact ⟨decoded, read⟩
  · intro read
    obtain ⟨decoded, read⟩ := read
    exact ⟨decoded.object, by rw [read]; rfl, DecodedObject.uri_of_ofRows mine read⟩

end Saved

/-- A message in a channel is saved in a transaction that is committed afterwards. -/
theorem exists_get_of_save_message :
    let segment : Segment := ⟨"s", "urn:s"⟩
    let config := { Configuration.standard "segments.sqlite" with external := some true }
    let store := (ofDatabase config .core Database.empty.setUp.2).afterAll
      [.addSegment segment, .createTransaction]
    let place : GeoLocation := ⟨.ofInt 52, .infinite true⟩
    let message := ((GraphObject.ofClass "urn:m" Vocabulary.messageClass).set
      Vocabulary.hasChannel (.single (.uri "urn:channel"))).set
        "urn:body" (.multi [.string "text", .geolocation place, .double (.ofInt (-3)), .truth .mu])
    let saved := (store.save (some "tx0") segment [message] [segment]).2
    let settled := (saved.settle (some "tx0")).2
    message.FitsTable ∧
      store.save (some "tx0") segment [message] [segment] = (.ok [message], saved) ∧
      saved.settle (some "tx0") = (.ok (), settled) ∧
      message.IsReadable store.scope.registry store.scope.settings.read ∧
      ∃ read, settled.scope.get settled.database [segment] message.uri = .ok (some read) ∧
        read.uri = message.uri := by
  intro segment config store place message saved settled
  have fits : message.FitsTable :=
    { unambiguous := by decide +kernel
      unmarked := by decide +kernel
      numbers := by decide +kernel }
  have saves : store.save (some "tx0") segment [message] [segment] = (.ok [message], saved) :=
    Prod.ext (eq_ok_of_toOption (by decide +kernel)) rfl
  have settles : saved.settle (some "tx0") = (.ok (), settled) :=
    Prod.ext (eq_ok_of_toOption (by decide +kernel)) rfl
  have registry : store.scope.registry = .core := by decide +kernel
  have options : store.scope.settings.read = ⟨.strict, true, false, .inline⟩ := by decide +kernel
  have readable : message.IsReadable store.scope.registry store.scope.settings.read := by
    rw [registry, options]
    refine ⟨⟨Vocabulary.messageDomain, Registry.coreVersion, none, [Vocabulary.coreDomain]⟩,
      by decide +kernel, ?_, by decide +kernel, by decide +kernel⟩
    intro _ _ loaded found
    obtain rfl : _ = loaded := Option.some.inj found
    exact .inl rfl
  exact ⟨fits, saves, settles, readable, (exists_get_of_save fits saves settles).2 readable⟩

/-- A node with a property that is not registered is saved, but not read, unless such properties are
allowed. -/
theorem unknown_property_is_not_read :
    let segment : Segment := ⟨"s", "urn:s"⟩
    let store := (ofDatabase (.standard "segments.sqlite") .core Database.empty.setUp.2).after
      (.addSegment segment)
    let node := (GraphObject.ofClass "urn:a" Vocabulary.nodeClass).set "urn:note"
      (.single (.string "n"))
    let saved := (store.save none segment [node] [segment]).2
    create (.standard "segments.sqlite") .core =
        .ok (ofDatabase (.standard "segments.sqlite") .core Database.empty.setUp.2) ∧
      (store.save none segment [node] [segment]).1 = .ok [node] ∧
      saved.scope.get saved.database [segment] node.uri =
        .error (.integrity (.unknownProperty "urn:note" node.uri)) := by
  intro segment store node saved
  have fits : node.FitsTable :=
    { unambiguous := by decide +kernel
      unmarked := by decide +kernel
      numbers := by decide +kernel }
  have saves : store.save none segment [node] [segment] = (.ok [node], saved) :=
    Prod.ext (eq_ok_of_toOption (by decide +kernel)) rfl
  have registry : store.scope.registry = .core := by decide +kernel
  have options : store.scope.settings.read = ⟨.strict, false, false, .inline⟩ := by decide +kernel
  obtain ⟨rows, written, found⟩ := get_of_save fits saves rfl
  rw [registry] at written
  have core : node.ontology? .core =
      some ⟨Vocabulary.coreDomain, Registry.coreVersion, none, []⟩ := by decide +kernel
  obtain ⟨-, ontology, described, rfl⟩ := GraphObject.toRows_eq_ok.1 written
  obtain rfl := Option.some.inj (core.symm.trans described)
  have read : DecodedObject.ofRows .core ⟨.strict, false, false, .inline⟩
      (((node.entries ⟨Vocabulary.coreDomain, Registry.coreVersion, none, []⟩).flatMap fun entry =>
        GraphObject.rowsOfEntry .core node entry.1 entry.2).map
          (Row.withStored Value.storedKept)) =
      .error (.integrity (.unknownProperty "urn:note" node.uri)) := by
    decide +kernel
  refine ⟨create_eq_ok _ rfl, congrArg Prod.fst saves, ?_⟩
  rw [found, registry, options, read]
  rfl

end Store

end GraphSegments
