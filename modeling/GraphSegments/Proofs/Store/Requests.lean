import GraphSegments.Proofs.Store.Consistency
import GraphSegments.Proofs.Store.Loads
import GraphSegments.Proofs.Table.Grouping

/-!
Fetching the objects of a list of URIs. Whatever is repeated in the list, each object comes once,
from the first table of the pool that holds it and in the place where it is first asked for, as long
as no table is asked for it by two statements. Where two statements ask for it its rows come twice,
and the whole list fails.
-/

namespace GraphSegments
open Results GraphSegments.Lists

/-- Whether a table holds an object. -/
def Database.holdsObject (database : Database) (table uri : String) : Bool :=
  (database.recordsOf table).toOption.any fun records => records.any (·.uri == uri)

section Held

variable {database : Database} {table : String} {records : List Record}
  (present : database.recordsOf table = .ok records)
include present

theorem Database.holdsObject_eq :
    database.holdsObject table = fun uri => records.any (·.uri == uri) := by
  funext uri
  rw [holdsObject, present]
  rfl

theorem Database.holdsObject_iff {uri : String} :
    database.holdsObject table uri = true ↔ Record.Hold records uri := by
  rw [holdsObject_eq present]
  simp [Record.Hold]

end Held

/-- What either of two readings gives, and what the first gives before what the second adds. -/
theorem Lists.perm_filterMap_or {α β : Type} (first second : α → Option β) (items : List α) :
    (items.filterMap fun item => (first item).or (second item)).Perm
      (items.filterMap first ++ (items.filter fun item => (first item).isNone).filterMap second) := by
  induction items with
  | nil => exact .refl _
  | cons item rest ih =>
    cases here : first item with
    | some value => simpa [here] using ih
    | none =>
      cases there : second item with
      | none => simpa [here, there] using ih
      | some value => simpa [here, there] using (ih.cons value).trans List.perm_middle.symm

/-- A batch that can be read holds nothing but objects that can. -/
theorem DecodedObject.exists_ofRows_of_ofBatch {registry : Registry} {options : ReadOptions}
    {rows : List Row} {decoded : List DecodedObject}
    (ran : ofBatch registry options rows = .ok decoded) {row : Row} (listed : row ∈ rows) :
    ∃ read, ofRows registry options (rows.filter (·.uri == row.uri)) = .ok read := by
  have each (uris : List String) {decoded : List DecodedObject}
      (ran : ofUris registry options rows uris = .ok decoded) :
      ∀ uri ∈ uris, ∃ read, ofRows registry options (rows.filter (·.uri == uri)) = .ok read := by
    induction uris generalizing decoded with
    | nil => simp
    | cons uri rest ih =>
      obtain ⟨read, first, later⟩ := bind_eq_ok.1 ran
      obtain ⟨others, remaining, -⟩ := bind_eq_ok.1 later
      exact List.forall_mem_cons.2 ⟨⟨read, first⟩, ih remaining⟩
  exact each _ ran row.uri (List.mem_eraseDups.2 (List.mem_map_of_mem listed))

/-- An item before and behind as many others as fill a part is in two parts. -/
theorem Statement.not_inOnePart_around (item other : String) (count : Nat) :
    ¬ InOnePart (count + 1) (item :: List.replicate count other ++ [item]) item := by
  intro one
  have last : (item :: List.replicate count other ++ [item])[count + 1]? = some item := by
    simp
  have same := one 0 (count + 1) rfl last
  rw [Nat.zero_div, Nat.div_self count.succ_pos] at same
  exact absurd same Nat.zero_ne_one

theorem Lists.perm_eraseDups_around {item other : String} (differ : item ≠ other) (count : Nat) :
    (item :: List.replicate (count + 1) other ++ [item]).eraseDups.Perm [item, other] := by
  refine (List.perm_ext_iff_of_nodup (nodup_eraseDups _) (by simpa using differ)).2 fun found => ?_
  simp only [List.mem_eraseDups, List.mem_append, List.mem_cons, List.mem_replicate,
    List.not_mem_nil]
  tauto

namespace StoreScope

variable {scope : StoreScope} {database : Database}

/-- What a table holds of an object. -/
def objectIn (scope : StoreScope) (database : Database) (table uri : String) :
    Option GraphObject :=
  (database.recordsOf table).toOption.bind fun records =>
    Record.objectOf scope.registry scope.settings.read records uri

/-- What the first of some tables that hold an object holds of it. -/
def firstObject (scope : StoreScope) (database : Database) (tables : List (Segment × String))
    (uri : String) : Option GraphObject :=
  (tables.find? fun table => database.holdsObject table.2 uri).bind fun table =>
    scope.objectIn database table.2 uri

/-- Of the objects that are still missing, no table is asked by two statements for one that it
holds. -/
def AskedOnce (database : Database) : List String → List (Segment × String) → Prop
  | _, [] => True
  | missing, (_, table) :: rest =>
    (∀ uri ∈ missing, database.holdsObject table uri = true →
      Statement.InOnePart Statement.uriBatch missing uri) ∧
    AskedOnce database (missing.filter fun uri => !database.holdsObject table uri) rest

/-- What the tables of a pool hold of some objects can be read. -/
def AreReadable (scope : StoreScope) (database : Database) (tables : List (Segment × String))
    (uris : List String) : Prop :=
  ∀ table ∈ tables, ∀ uri ∈ uris, database.holdsObject table.2 uri = true →
    (scope.objectIn database table.2 uri).isSome = true

/-- Of every object that a table of a pool holds there is a row with a single value, as the one of
its class is. -/
def HaveSingleRows (database : Database) (tables : List (Segment × String)) (uris : List String) :
    Prop :=
  ∀ table ∈ tables, ∀ uri ∈ uris, ∀ records, database.recordsOf table.2 = .ok records →
    database.holdsObject table.2 uri = true →
      ∃ row ∈ Record.rowsOf records uri, row.multi = false

theorem askedOnce_of_nodup {uris : List String} (distinct : uris.Nodup)
    (tables : List (Segment × String)) : AskedOnce database uris tables := by
  induction tables generalizing uris with
  | nil => trivial
  | cons table rest ih =>
    exact ⟨fun _ _ _ => Statement.inOnePart_of_nodup distinct, ih (distinct.filter _)⟩

theorem askedOnce_of_length_le {uris : List String} (short : uris.length ≤ Statement.uriBatch)
    (tables : List (Segment × String)) : AskedOnce database uris tables := by
  induction tables generalizing uris with
  | nil => trivial
  | cons table rest ih =>
    exact ⟨fun _ _ _ => Statement.inOnePart_of_length_le short,
      ih ((List.length_filter_le _ _).trans short)⟩

theorem objectIn_eq {table : String} {records : List Record}
    (present : database.recordsOf table = .ok records) :
    scope.objectIn database table =
      Record.objectOf scope.registry scope.settings.read records := by
  funext uri
  rw [objectIn, present]
  rfl

/-- If it can be read, an object is in those tables that hold records of it. -/
theorem isSome_objectIn {table uri : String} (readable : database.holdsObject table uri = true →
    (scope.objectIn database table uri).isSome = true) :
    (scope.objectIn database table uri).isSome = database.holdsObject table uri := by
  refine Bool.eq_iff_iff.2 ⟨fun some => ?_, readable⟩
  obtain ⟨object, read⟩ := Option.isSome_iff_exists.1 some
  obtain ⟨records, present, read⟩ := Option.bind_eq_some_iff.1 read
  exact (Database.holdsObject_iff (eq_ok_of_toOption present)).2 (Record.hold_of_objectOf read)

/-- Where a table holds nothing of an object the next one is looked into. -/
theorem firstObject_cons {table : Segment × String} {rest : List (Segment × String)} {uri : String}
    (readable : database.holdsObject table.2 uri = true →
      (scope.objectIn database table.2 uri).isSome = true) :
    scope.firstObject database (table :: rest) uri =
      (scope.objectIn database table.2 uri).or (scope.firstObject database rest uri) := by
  have some := isSome_objectIn readable
  rw [firstObject, List.find?_cons]
  cases holds : database.holdsObject table.2 uri with
  | true =>
    obtain ⟨object, read⟩ := Option.isSome_iff_exists.1 (some.trans holds)
    rw [Option.bind_some, read, Option.some_or]
  | false =>
    rw [holds, Option.isSome_eq_false_iff, Option.isNone_iff_eq_none] at some
    rw [some, Option.none_or]
    rfl

theorem firstObject_singleton (segment : Segment) (table uri : String) :
    scope.firstObject database [(segment, table)] uri =
      bif database.holdsObject table uri then scope.objectIn database table uri else none := by
  rw [firstObject, List.find?_cons]
  cases database.holdsObject table uri <;> rfl

theorem isSome_firstObject {tables : List (Segment × String)} {uri : String}
    (readable : ∀ table ∈ tables, database.holdsObject table.2 uri = true →
      (scope.objectIn database table.2 uri).isSome = true) :
    (scope.firstObject database tables uri).isSome =
      tables.any fun table => database.holdsObject table.2 uri := by
  induction tables with
  | nil => rfl
  | cons table rest ih =>
    obtain ⟨here, others⟩ := List.forall_mem_cons.1 readable
    rw [firstObject_cons here, Option.isSome_or, isSome_objectIn here, ih others, List.any_cons]

theorem loadFrom_nil (tables : List (Segment × String)) :
    scope.loadFrom database [] tables = .ok [] := by
  cases tables <;> simp [loadFrom]

/-- Rows that come twice cannot be read, unless all of them are multi-valued. -/
theorem inOnePart_of_load {table : String} {records : List Record} {missing : List String}
    {objects : List GraphObject} (present : database.recordsOf table = .ok records)
    (loaded : scope.load database table missing = .ok objects) {uri : String}
    (single : ∃ row ∈ Record.rowsOf records uri, row.multi = false) :
    Statement.InOnePart Statement.uriBatch missing uri := by
  by_contra twice
  obtain ⟨row, listed, single⟩ := single
  obtain ⟨found, ran, decode⟩ := bind_eq_ok.1 loaded
  obtain ⟨decoded, batch, -⟩ := bind_eq_ok.1 decode
  have both : (Record.rowsOf records uri ++ Record.rowsOf records uri).Sublist
      (found.filter (·.uri == uri)) := by
    rw [Fetching.filter_of_run_rows present ran]
    exact sublist_flatMap_of_twice
      (fun once => twice ((Statement.pairwise_chunks_iff (by decide)).1 once)) _
  have inside : row ∈ found.filter (·.uri == uri) :=
    both.subset (List.mem_append_left _ listed)
  obtain ⟨member, own⟩ := List.mem_filter.1 inside
  obtain ⟨read, decodes⟩ := DecodedObject.exists_ofRows_of_ofBatch batch member
  rw [beq_iff_eq.1 own] at decodes
  obtain ⟨first, rest, rows⟩ := List.exists_cons_of_ne_nil (List.ne_nil_of_mem inside)
  rw [rows] at decodes both
  obtain ⟨grouped, stands, -⟩ := bind_eq_ok.1 decodes
  have coherent := (PropertyRows.group_eq_ok.1 stands).coherent.sublist both
  have multi := ((List.pairwise_append.1 coherent).2.2 row listed row listed rfl rfl).1
  exact absurd (multi.symm.trans single) (by decide)

section Asked

variable {table : String} {records : List Record} {missing : List String}
  (present : database.recordsOf table = .ok records)
  (readable : ∀ uri ∈ missing, database.holdsObject table uri = true →
    (scope.objectIn database table uri).isSome = true)
include present readable

/-- What can be read of a table is loaded if no two statements ask for it. -/
theorem load_of_askedOnce (once : ∀ uri ∈ missing, database.holdsObject table uri = true →
    Statement.InOnePart Statement.uriBatch missing uri) :
    scope.load database table missing =
      .ok ((UriSet.ofList missing).filterMap (scope.objectIn database table)) := by
  have same : scope.objectIn database table =
      Record.objectOf scope.registry scope.settings.read records := objectIn_eq present
  rw [same]
  refine (load_eq_ok_iff present fun uri listed held =>
    once uri listed ((Database.holdsObject_iff present).2 held)).2 ⟨fun uri listed => ?_, rfl⟩
  by_cases held : Record.Hold records uri
  · have some := readable uri listed ((Database.holdsObject_iff present).2 held)
    obtain ⟨decoded, ran⟩ := Record.isSome_objectOf_iff.1 (same ▸ some)
    exact ⟨_, ran⟩
  · exact ⟨none, Record.readObject_of_not_hold held⟩

/-- What is still missing is what the table does not hold. -/
theorem filter_of_load :
    (missing.filter fun uri =>
      !((UriSet.ofList missing).filterMap (scope.objectIn database table)).any (·.uri == uri)) =
      missing.filter fun uri => !database.holdsObject table uri := by
  apply List.filter_congr
  intro uri listed
  rw [← isSome_objectIn (readable uri listed), objectIn_eq present, Bool.not_inj_iff,
    Bool.eq_iff_iff, List.any_eq_true]
  simp only [beq_iff_eq]
  rw [← List.mem_map (f := GraphObject.uri), Record.map_uri_objectOf, List.mem_filter,
    UriSet.mem_ofList, and_iff_right listed]

/-- A table is asked for what is missing, and the next ones for what it does not hold. -/
theorem loadFrom_cons (once : ∀ uri ∈ missing, database.holdsObject table uri = true →
    Statement.InOnePart Statement.uriBatch missing uri) (segment : Segment)
    (rest : List (Segment × String)) :
    scope.loadFrom database missing ((segment, table) :: rest) =
      (scope.loadFrom database (missing.filter fun uri => !database.holdsObject table uri) rest).map
        ((UriSet.ofList missing).filterMap (scope.objectIn database table) ++ ·) := by
  cases some : missing with
  | nil => simp [loadFrom_nil, UriSet.ofList, Except.map]
  | cons uri more =>
    rw [← some, loadFrom, if_neg (by simp [some]), load_of_askedOnce present readable once, ok_bind]
    simp only [filter_of_load present readable]
    cases scope.loadFrom database (missing.filter fun uri => !database.holdsObject table uri) rest <;>
      rfl

end Asked

section Present

variable {tables : List (Segment × String)}
  (present : ∀ table ∈ tables, ∃ records, database.recordsOf table.2 = .ok records)
include present

/-- Each object that is missing is loaded from the first table that holds it. -/
theorem exists_loadFrom {missing : List String} (readable : scope.AreReadable database tables missing)
    (once : AskedOnce database missing tables) :
    ∃ found, scope.loadFrom database missing tables = .ok found ∧
      found.Perm (missing.eraseDups.filterMap (scope.firstObject database tables)) := by
  induction tables generalizing missing with
  | nil =>
    refine ⟨[], rfl, ?_⟩
    simp [firstObject]
  | cons first rest ih =>
    obtain ⟨here, others⟩ := List.forall_mem_cons.1 present
    obtain ⟨readHere, readOthers⟩ := List.forall_mem_cons.1 readable
    obtain ⟨records, held⟩ := here
    obtain ⟨segment, table⟩ := first
    obtain ⟨onceHere, onceOthers⟩ := once
    obtain ⟨later, ran, perm⟩ := ih others
      (fun table listed uri inside => readOthers table listed uri (List.mem_filter.1 inside).1)
      onceOthers
    refine ⟨_, by rw [loadFrom_cons held readHere onceHere, ran]; rfl, ?_⟩
    have each : missing.eraseDups.filterMap (scope.firstObject database ((segment, table) :: rest)) =
        missing.eraseDups.filterMap fun uri =>
          (scope.objectIn database table uri).or (scope.firstObject database rest uri) :=
      List.filterMap_congr fun uri listed =>
        firstObject_cons (readHere uri (List.mem_eraseDups.1 listed))
    have left : (missing.filter fun uri => !database.holdsObject table uri).eraseDups =
        missing.eraseDups.filter fun uri => (scope.objectIn database table uri).isNone := by
      rw [← filter_eraseDups]
      apply List.filter_congr
      intro uri listed
      rw [← isSome_objectIn (readHere uri (List.mem_eraseDups.1 listed)), Option.not_isSome]
    rw [each]
    refine .trans ?_ (Lists.perm_filterMap_or _ _ _).symm
    rw [left] at perm
    exact ((List.mergeSort_perm _ _).filterMap _).append perm

/-- If the objects that are missing are loaded, no two statements have asked for one. -/
theorem askedOnce_of_loadFrom {missing : List String} {found : List GraphObject}
    (readable : scope.AreReadable database tables missing)
    (single : HaveSingleRows database tables missing)
    (loaded : scope.loadFrom database missing tables = .ok found) :
    AskedOnce database missing tables := by
  induction tables generalizing missing found with
  | nil => trivial
  | cons first rest ih =>
    by_cases none : missing = []
    · exact none ▸ askedOnce_of_nodup .nil _
    obtain ⟨here, others⟩ := List.forall_mem_cons.1 present
    obtain ⟨readHere, readOthers⟩ := List.forall_mem_cons.1 readable
    obtain ⟨singleHere, singleOthers⟩ := List.forall_mem_cons.1 single
    obtain ⟨records, held⟩ := here
    obtain ⟨segment, table⟩ := first
    have onceHere : ∀ uri ∈ missing, database.holdsObject table uri = true →
        Statement.InOnePart Statement.uriBatch missing uri := by
      rw [loadFrom, if_neg (by simpa using none)] at loaded
      obtain ⟨objects, ran, -⟩ := bind_eq_ok.1 loaded
      exact fun uri listed holds =>
        inOnePart_of_load held ran (singleHere uri listed records held holds)
    rw [loadFrom_cons held readHere onceHere] at loaded
    obtain ⟨later, ran, -⟩ := map_eq_ok.1 loaded
    exact ⟨onceHere, ih others
      (fun table listed uri inside => readOthers table listed uri (List.mem_filter.1 inside).1)
      (fun table listed uri inside => singleOthers table listed uri (List.mem_filter.1 inside).1)
      ran⟩

end Present

theorem uri_of_firstObject {tables : List (Segment × String)} {uri : String} {object : GraphObject}
    (found : scope.firstObject database tables uri = some object) : object.uri = uri := by
  obtain ⟨table, -, read⟩ := Option.bind_eq_some_iff.1 found
  obtain ⟨records, -, read⟩ := Option.bind_eq_some_iff.1 read
  exact Record.uri_of_objectOf read

section Pool

variable {pool : List Segment} {uris : List String}
  (readable : scope.AreReadable database (scope.poolTables database pool) uris)
include readable

/-- Loaded objects are put in the order in which they are first asked for. -/
theorem getBatch_of_askedOnce (once : AskedOnce database uris (scope.poolTables database pool)) :
    scope.getBatch database pool uris = .ok
      (uris.eraseDups.filterMap (scope.firstObject database (scope.poolTables database pool))) := by
  obtain ⟨found, loaded, perm⟩ :=
    exists_loadFrom (exists_recordsOf_of_poolTables scope pool) readable once
  rw [getBatch, loaded, ok_bind]
  refine congrArg Except.ok ?_
  have member {object : GraphObject} (listed : object ∈ uris.eraseDups.filterMap
      (scope.firstObject database (scope.poolTables database pool))) :
      object.uri ∈ uris ∧
        scope.firstObject database (scope.poolTables database pool) object.uri = some object := by
    obtain ⟨uri, inside, read⟩ := List.mem_filterMap.1 listed
    obtain rfl := uri_of_firstObject read
    exact ⟨List.mem_eraseDups.1 inside, read⟩
  let earlier (a b : GraphObject) : Bool := decide (uris.idxOf a.uri ≤ uris.idxOf b.uri)
  have sorted : (found.mergeSort earlier).Pairwise fun a b => earlier a b = true :=
    List.pairwise_mergeSort (fun _ _ _ => by simpa [earlier] using Nat.le_trans)
      (fun _ _ => by simpa [earlier] using Nat.le_total _ _) found
  have inOrder : (uris.eraseDups.filterMap (scope.firstObject database
      (scope.poolTables database pool))).Pairwise fun a b =>
        decide (uris.idxOf a.uri ≤ uris.idxOf b.uri) = true := by
    have kept := (pairwise_idxOf_eraseDups uris).filter fun uri =>
      (scope.firstObject database (scope.poolTables database pool) uri).isSome
    rw [← GraphObject.map_uri_filterMap fun _ _ => uri_of_firstObject] at kept
    exact (List.pairwise_map.1 kept).imp fun below => decide_eq_true below.le
  refine ((List.mergeSort_perm _ _).trans perm).eq_of_pairwise (fun a b first second le ge => ?_)
    sorted inOrder
  -- Two objects in the same place of the request are the same.
  obtain ⟨asked, read⟩ := member (perm.subset (List.mem_mergeSort.1 first))
  obtain ⟨-, readToo⟩ := member second
  have same := (List.idxOf_inj asked).1 (le_antisymm (of_decide_eq_true le) (of_decide_eq_true ge))
  exact Option.some.inj (read.symm.trans (same ▸ readToo))

end Pool

/-- Each object of a request comes once, in the place where it is first asked for. Repetitions make
no difference unless two statements ask one table for an object that it holds, and then the request
fails. -/
theorem batch_follows_request {scope : StoreScope} {database : Database} {pool : List Segment}
    {uris : List String}
    (readable : scope.AreReadable database (scope.poolTables database pool) uris) :
    let tables := scope.poolTables database pool
    let objects := uris.eraseDups.filterMap (scope.firstObject database tables)
    objects.map (·.uri) = (uris.eraseDups.filter fun uri =>
        tables.any fun table => database.holdsObject table.2 uri) ∧
      scope.getBatch database pool uris.eraseDups = .ok objects ∧
      (AskedOnce database uris tables → scope.getBatch database pool uris = .ok objects) ∧
      (HaveSingleRows database tables uris → ¬ AskedOnce database uris tables →
        ∃ error, scope.getBatch database pool uris = .error error) ∧
      (uris.Nodup ∨ uris.length ≤ Statement.uriBatch → AskedOnce database uris tables) := by
  intro tables objects
  refine ⟨?_, ?_, getBatch_of_askedOnce readable, fun single twice => ?_, fun simple => ?_⟩
  · rw [GraphObject.map_uri_filterMap fun _ _ => uri_of_firstObject]
    apply List.filter_congr
    intro uri listed
    exact isSome_firstObject fun table inside =>
      readable table inside uri (List.mem_eraseDups.1 listed)
  · have distinct := nodup_eraseDups uris
    have readableToo : scope.AreReadable database tables uris.eraseDups :=
      fun table listed uri inside => readable table listed uri (List.mem_eraseDups.1 inside)
    have fetched := getBatch_of_askedOnce readableToo (askedOnce_of_nodup distinct _)
    rwa [eraseDups_of_nodup distinct] at fetched
  · cases fetched : scope.getBatch database pool uris with
    | error error => exact ⟨error, rfl⟩
    | ok found =>
      obtain ⟨loaded, ran, -⟩ := bind_eq_ok.1 fetched
      exact absurd (askedOnce_of_loadFrom (exists_recordsOf_of_poolTables scope pool) readable single
        ran) twice
  · exact simple.elim (askedOnce_of_nodup · _) (askedOnce_of_length_le · _)

/-- Two nodes are asked for in another order than that of the table, and one of them twice. -/
theorem batch_follows_request_repeated :
    let scope : StoreScope := ⟨.core, (Configuration.standard "segments.sqlite").searchSettings⟩
    let segment : Segment := ⟨"s", "urn:s"⟩
    let node (uri : String) : GraphObject := .ofClass uri Vocabulary.nodeClass
    let rows := ["urn:a", "urn:b"].flatMap fun uri => ((node uri).toRows .core).toOption.getD []
    let database := Database.ofTable (scope.table segment) (rows.map .ofRow)
    let uris := ["urn:b", "urn:a", "urn:c", "urn:b"]
    scope.AreReadable database (scope.poolTables database [segment]) uris ∧
      scope.getBatch database [segment] uris = .ok [node "urn:b", node "urn:a"] := by
  intro scope segment node rows database uris
  have there : scope.hasSegment database segment = true := by decide +kernel
  have tables := poolTables_singleton there
  have present : database.recordsOf (scope.table segment) = .ok (rows.map .ofRow) :=
    Database.recordsOf_ofTable _ _
  have held : ["urn:a", "urn:b", "urn:c"].map (fun uri =>
      (rows.map Record.ofRow).any (·.uri == uri)) = [true, true, false] := by decide +kernel
  rw [← Database.holdsObject_eq present] at held
  have found : ["urn:a", "urn:b"].map (Record.objectOf scope.registry scope.settings.read
      (rows.map .ofRow)) = [some (node "urn:a"), some (node "urn:b")] := by decide +kernel
  simp only [List.map_cons, List.map_nil, List.cons.injEq, and_true] at held found
  obtain ⟨here, there, absent⟩ := held
  rw [← objectIn_eq present] at found
  have readable : scope.AreReadable database (scope.poolTables database [segment]) uris := by
    rw [tables]
    refine List.forall_mem_singleton.2 ?_
    simp [uris, found, absent]
  obtain ⟨-, -, fetched, -, once⟩ := batch_follows_request readable
  refine ⟨readable, (fetched (once (.inr (by decide)))).trans ?_⟩
  have order : uris.eraseDups = ["urn:b", "urn:a", "urn:c"] := by decide
  rw [tables, order, List.filterMap_cons, List.filterMap_cons, List.filterMap_cons,
    List.filterMap_nil, firstObject_singleton, firstObject_singleton, firstObject_singleton, here,
    there, absent, found.1, found.2]
  rfl

/-- A node that is asked for again by the second statement cannot be fetched at all. -/
theorem repeated_request_fails :
    let scope : StoreScope := ⟨.core, (Configuration.standard "segments.sqlite").searchSettings⟩
    let segment : Segment := ⟨"s", "urn:s"⟩
    let node : GraphObject := .ofClass "urn:a" Vocabulary.nodeClass
    let rows := (node.toRows .core).toOption.getD []
    let database := Database.ofTable (scope.table segment) (rows.map .ofRow)
    let uris := "urn:a" :: List.replicate 999 "urn:b" ++ ["urn:a"]
    database.IsSound ∧ scope.AreReadable database (scope.poolTables database [segment]) uris ∧
      scope.getBatch database [segment] uris.eraseDups = .ok [node] ∧
      ∃ error, scope.getBatch database [segment] uris = .error error := by
  intro scope segment node rows database uris
  have there : scope.hasSegment database segment = true := by decide +kernel
  have tables := poolTables_singleton there
  have present : database.recordsOf (scope.table segment) = .ok (rows.map .ofRow) :=
    Database.recordsOf_ofTable _ _
  have held : (rows.map Record.ofRow).any (·.uri == "urn:a") = true ∧
      (rows.map Record.ofRow).any (·.uri == "urn:b") = false := by decide +kernel
  rw [← congrFun (Database.holdsObject_eq present), ← congrFun (Database.holdsObject_eq present)]
    at held
  have found : Record.objectOf scope.registry scope.settings.read (rows.map .ofRow) "urn:a" =
        some node ∧
      (Record.rowsOf (rows.map .ofRow) "urn:a").any (!·.multi) = true := by decide +kernel
  rw [← objectIn_eq present] at found
  have around : uris.eraseDups.Perm ["urn:a", "urn:b"] :=
    Lists.perm_eraseDups_around (by decide) 998
  have only : ∀ uri ∈ uris, database.holdsObject (scope.table segment) uri = true →
      uri = "urn:a" := by
    intro uri listed holds
    have known := around.mem_iff.1 (List.mem_eraseDups.2 listed)
    rcases List.mem_pair.1 known with same | rfl
    · exact same
    · exact absurd (held.2.symm.trans holds) (by decide)
  have readable : scope.AreReadable database (scope.poolTables database [segment]) uris := by
    rw [tables]
    refine List.forall_mem_singleton.2 fun uri listed holds => ?_
    rw [only uri listed holds, found.1]
    rfl
  have single : HaveSingleRows database (scope.poolTables database [segment]) uris := by
    rw [tables]
    refine List.forall_mem_singleton.2 fun uri listed records there holds => ?_
    obtain rfl := Except.ok.inj (present.symm.trans there)
    rw [only uri listed holds]
    simpa using found.2
  have sound : Row.Coherent rows ∧ Row.Repeat rows := by
    unfold Row.Coherent Row.Repeat
    decide +kernel
  refine ⟨?_, readable, ?_, ?_⟩
  · exact List.forall_mem_singleton.2 ⟨rows, rfl, sound⟩
  · have readableToo : scope.AreReadable database (scope.poolTables database [segment])
        uris.eraseDups :=
      fun table listed uri inside => readable table listed uri (List.mem_eraseDups.1 inside)
    rw [getBatch_of_askedOnce readableToo (askedOnce_of_nodup (nodup_eraseDups uris) _),
      eraseDups_of_nodup (nodup_eraseDups uris), tables]
    refine congrArg Except.ok (List.perm_singleton.1 ((around.filterMap _).trans ?_))
    rw [List.filterMap_cons, List.filterMap_cons, List.filterMap_nil, firstObject_singleton,
      firstObject_singleton, held.1, held.2, found.1]
    exact .refl _
  · cases fetched : scope.getBatch database [segment] uris with
    | error error => exact ⟨error, rfl⟩
    | ok objects =>
      obtain ⟨loaded, ran, -⟩ := bind_eq_ok.1 fetched
      have asked := askedOnce_of_loadFrom (exists_recordsOf_of_poolTables scope [segment])
        readable single ran
      rw [tables] at asked
      exact absurd (asked.1 "urn:a" List.mem_cons_self held.1)
        (Statement.not_inOnePart_around "urn:a" "urn:b" 999)

end StoreScope

end GraphSegments
