import GraphSegments.Proofs.Store.Loads
import GraphSegments.Proofs.Table.Streaming
import GraphSegments.Store.Scan

/-!
Reading a whole segment. A scan goes through its objects page by page, and every page it asks for
takes the rows of the next objects through one stream. So what it hands over is what the rows of all
objects give, however they are cut into pages, and the same objects are exported and fetched.
-/

namespace GraphSegments
open Results GraphSegments.Lists

/-- The rows of objects in ascending order ascend. -/
theorem Row.runsAscend_flatMap {group : String → List Row}
    (alike : ∀ uri, ∀ row ∈ group uri, row.uri = uri) {uris : List String}
    (ascending : uris.Pairwise (· < ·)) : RunsAscend (uris.flatMap group) := by
  induction uris with
  | nil => exact List.Pairwise.nil
  | cons uri rest ih =>
    obtain ⟨below, ascending⟩ := List.pairwise_cons.1 ascending
    rw [List.flatMap_cons]
    by_cases none : group uri = []
    · rw [none, List.nil_append]
      exact ih ascending
    · cases later : rest.flatMap group with
      | nil =>
        rw [List.append_nil]
        exact runsAscend_of_alike (alike uri) none
      | cons row others =>
        obtain ⟨other, member, own⟩ :=
          List.mem_flatMap.1 (later ▸ List.mem_cons_self : row ∈ rest.flatMap group)
        have above : uri < row.uri := alike other row own ▸ below other member
        rw [runsAscend_append_cons (alike uri) none above.ne', ← later]
        exact ⟨above, ih ascending⟩

namespace RowStream

variable {registry : Registry} {options : ReadOptions}

/-- Rows give what their first part gives, and then what the rest gives. -/
theorem gives_append {stream : RowStream} {rows rest : List Row} {objects : List DecodedObject} :
    stream.Gives registry options (rows ++ rest) objects ↔
      ∃ next first others, stream.pushAll registry options rows = .ok (next, first) ∧
        next.Gives registry options rest others ∧ first ++ others = objects := by
  induction rows generalizing stream objects with
  | nil =>
    constructor
    · intro gives
      exact ⟨stream, [], objects, rfl, gives, rfl⟩
    · intro pushed
      obtain ⟨_, _, _, pushed, gives, rfl⟩ := pushed
      obtain ⟨rfl, rfl⟩ := Prod.mk.inj (Except.ok.inj pushed)
      exact gives
  | cons row more ih =>
    rw [List.cons_append, gives_cons, pushAll]
    constructor
    · intro gives
      obtain ⟨middle, finished, _, pushed, gives, rfl⟩ := gives
      obtain ⟨next, first, others, ran, later, rfl⟩ := ih.1 gives
      refine ⟨next, finished.toList ++ first, others, ?_, later, List.append_assoc ..⟩
      simp only [pushed, ran, ok_bind]
      rfl
    · intro ran
      obtain ⟨next, first, others, ran, gives, rfl⟩ := ran
      cases pushed : stream.push registry options row with
      | mk middle outcome =>
        cases outcome with
        | error error => simp [pushed] at ran
        | ok finished =>
          simp only [pushed] at ran
          obtain ⟨⟨last, given⟩, taken, joined⟩ := bind_eq_ok.1 ran
          obtain ⟨rfl, rfl⟩ := Prod.mk.inj (Except.ok.inj joined)
          exact ⟨middle, finished, given ++ others, rfl,
            ih.2 ⟨last, given, others, taken, gives, rfl⟩, (List.append_assoc ..).symm⟩

end RowStream

theorem UriSet.ofList_of_ascending {uris : UriSet} (ascending : UriSet.IsAscending uris) :
    UriSet.ofList uris = uris :=
  (UriSet.ascending_ofList uris).ext ascending fun _ => UriSet.mem_ofList

namespace Record

/-- The objects that records are of, in ascending order. -/
def uris (records : List Record) : UriSet := UriSet.ofList (records.map (·.uri))

theorem mem_uris {records : List Record} {uri : String} :
    uri ∈ uris records ↔ Hold records uri := by
  rw [uris, UriSet.mem_ofList, List.mem_map]
  rfl

theorem ascending_uris (records : List Record) : UriSet.IsAscending (uris records) :=
  UriSet.ascending_ofList _

theorem length_uris (records : List Record) :
    (uris records).length = (records.map (·.uri)).eraseDups.length :=
  (List.mergeSort_perm _ _).length_eq

theorem eraseDups_of_mergeSort (records : List Record) :
    ((records.mergeSort fun a b => a.uri ≤ b.uri).map (·.uri)).eraseDups = uris records := by
  have sorted := List.pairwise_map.2 (pairwise_mergeSort_by Record.uri records)
  have ascending : UriSet.IsAscending
      ((records.mergeSort fun a b => a.uri ≤ b.uri).map (·.uri)).eraseDups :=
    (List.pairwise_and_iff.2 ⟨sorted.sublist (eraseDups_sublist _), nodup_eraseDups _⟩).imp
      fun both => lt_of_le_of_ne both.1 both.2
  refine ascending.ext (ascending_uris records) fun uri => ?_
  rw [List.mem_eraseDups, ((List.mergeSort_perm records _).map Record.uri).mem_iff, uris,
    UriSet.mem_ofList]

section Page

variable {records : List Record} {offset : Nat} {part : List String}
  (left : (uris records).drop offset = part ++ (uris records).drop (offset + part.length))
include left

theorem ascending_page : UriSet.IsAscending part :=
  ((ascending_uris records).sublist (List.drop_sublist offset _)).sublist
    (left ▸ List.sublist_append_left _ _)

/-- Behind a page fewer objects are left. -/
theorem length_behind_page {steps : Nat} (some : part ≠ [])
    (enough : ((uris records).drop offset).length ≤ steps + 1) :
    ((uris records).drop (offset + part.length)).length ≤ steps := by
  have positive := List.length_pos_iff.2 some
  rw [left, List.length_append] at enough
  omega

end Page

end Record

namespace StoreScope

variable {scope : StoreScope} {stream : RowStream}

theorem gives_of_scanLast {σ : Type} {handler : σ → List GraphObject → Except Error σ}
    {state last : σ} {delivered count : Nat}
    (ran : scope.scanLast handler state delivered stream = (last, .ok count)) :
    ∃ decoded, stream.Gives scope.registry scope.settings.read [] decoded := by
  cases finished : stream.finish scope.registry scope.settings.read with
  | error error => simp [scanLast, finished] at ran
  | ok decoded => exact ⟨_, RowStream.gives_nil.2 ⟨decoded, finished, rfl⟩⟩

/-- The last object comes in a page of its own. -/
theorem exists_pages_of_scanLast {decoded : List DecodedObject}
    (gives : stream.Gives scope.registry scope.settings.read [] decoded) :
    ∃ pages : List (List GraphObject), pages.flatten = decoded.map (·.object) ∧
      (∀ page ∈ pages, page ≠ []) ∧
      ∀ {σ : Type} (handler : σ → List GraphObject → σ) (delivered : Nat) (state : σ),
        scope.scanLast (fun state page => .ok (handler state page)) state delivered stream =
          (pages.foldl handler state, .ok (delivered + decoded.length)) := by
  obtain ⟨last, finished, rfl⟩ := RowStream.gives_nil.1 gives
  cases last with
  | none => exact ⟨[], rfl, by simp, fun handler delivered state => by rw [scanLast, finished]; rfl⟩
  | some last =>
    refine ⟨[[last.object]], rfl, by simp, fun handler delivered state => ?_⟩
    rw [scanLast, finished]
    rfl

end StoreScope

section Present

variable {database : Database} {table : String} {records : List Record}
  (present : database.recordsOf table = .ok records)
include present

theorem Database.countObjects_eq : database.countObjects table = .ok (Record.uris records).length := by
  rw [countObjects, present, Record.length_uris]
  rfl

theorem Fetching.run_page (offset limit : Nat) :
    (page table offset limit).run database =
      .ok (((Record.uris records).drop offset).take limit) := by
  rw [page, Dialogue.run_askUris, ← Record.eraseDups_of_mergeSort]
  change (database.recordsOf table).map _ = _
  rw [present]
  rfl

namespace StoreScope

variable {scope : StoreScope}

/-- The rows of a page are those of its objects, one after the other. -/
theorem streamPage_eq_ok_iff {part : UriSet} (ascending : UriSet.IsAscending part)
    {stream next : RowStream} {objects : List GraphObject} :
    scope.streamPage database table part stream = .ok (next, objects) ↔
      (∀ uri ∈ part, Record.AreLegible records uri) ∧
        ∃ decoded, stream.pushAll scope.registry scope.settings.read
          (part.flatMap (Record.rowsOf records)) = .ok (next, decoded) ∧
            decoded.map (·.object) = objects := by
  have once : ∀ uri ∈ part, Record.Hold records uri →
      Statement.InOnePart Statement.uriBatch part uri :=
    fun _ _ _ => Statement.inOnePart_of_nodup ascending.nodup
  have fetched {found : List Row} : (Fetching.rows table part true).run database = .ok found ↔
      (∀ uri ∈ part, Record.AreLegible records uri) ∧
        found = part.flatMap (Record.rowsOf records) := by
    rw [Fetching.run_rows_eq_ok_iff present once, UriSet.ofList_of_ascending ascending]
  rw [streamPage]
  constructor
  · intro ran
    obtain ⟨found, asked, ran⟩ := bind_eq_ok.1 ran
    obtain ⟨legible, rfl⟩ := fetched.1 asked
    obtain ⟨⟨last, decoded⟩, pushed, joined⟩ := bind_eq_ok.1 ran
    obtain ⟨rfl, rfl⟩ := Prod.mk.inj (Except.ok.inj joined)
    exact ⟨legible, decoded, pushed, rfl⟩
  · intro ran
    obtain ⟨legible, decoded, pushed, rfl⟩ := ran
    rw [fetched.2 ⟨legible, rfl⟩, ok_bind, pushed]
    rfl

section Steps

variable {σ : Type} {handler : σ → List GraphObject → Except Error σ}

/-- Behind the last object a scan ends. -/
theorem scanFrom_of_end {offset : Nat} (ended : (Record.uris records).drop offset = [])
    (size steps delivered : Nat) (stream : RowStream) (state : σ) :
    scope.scanFrom database table size handler steps offset delivered stream state =
      scope.scanLast handler state delivered stream := by
  cases steps with
  | zero => rfl
  | succ steps => rw [scanFrom, Fetching.run_page present, ended, List.take_nil]

omit present in
/-- Before that, a step takes the objects of a page off those that are left. -/
theorem scanFrom_of_page {size offset : Nat} {part : List String}
    (asked : (Fetching.page table offset size).run database = .ok part) (some : part ≠ [])
    (steps delivered : Nat) (stream : RowStream) (state : σ) :
    scope.scanFrom database table size handler (steps + 1) offset delivered stream state =
      match scope.streamPage database table part stream with
      | .error error => (state, .error error)
      | .ok (next, []) =>
        scope.scanFrom database table size handler steps (offset + part.length) delivered next state
      | .ok (next, objects) =>
        match handler state objects with
        | .error error => (state, .error error)
        | .ok accepted =>
          scope.scanFrom database table size handler steps (offset + part.length)
            (delivered + objects.length) next accepted := by
  cases part with
  | nil => exact absurd rfl some
  | cons uri rest =>
    rewrite [scanFrom, asked]
    rfl

/-- The page that a scan asks for next, and what is left behind it. -/
theorem page_cases {size : Nat} (positive : 0 < size) (offset : Nat) :
    (Record.uris records).drop offset = [] ∨
      ∃ part, (Fetching.page table offset size).run database = .ok part ∧ part ≠ [] ∧
        (Record.uris records).drop offset =
          part ++ (Record.uris records).drop (offset + part.length) := by
  by_cases ended : (Record.uris records).drop offset = []
  · exact .inl ended
  · refine .inr ⟨_, Fetching.run_page present offset size, fun none => ?_, ?_⟩
    · rcases List.take_eq_nil_iff.1 none with zero | nothing
      · exact positive.ne' zero
      · exact ended nothing
    · rw [← List.drop_drop]
      exact (List.prefix_iff_eq_append.1 (List.take_prefix size _)).symm

/-- A scan ends by itself. More steps than there are objects left make no difference to it. -/
theorem scanFrom_of_enough {size : Nat} (positive : 0 < size) {steps more offset delivered : Nat}
    (enough : ((Record.uris records).drop offset).length ≤ steps) (most : steps ≤ more)
    {stream : RowStream} {state : σ} :
    scope.scanFrom database table size handler more offset delivered stream state =
      scope.scanFrom database table size handler steps offset delivered stream state := by
  induction steps generalizing more offset delivered stream state with
  | zero =>
    have ended := List.length_eq_zero_iff.1 (Nat.le_zero.1 enough)
    rw [scanFrom_of_end present ended, scanFrom_of_end present ended]
  | succ steps ih =>
    obtain ⟨more, rfl⟩ := Nat.exists_eq_add_one_of_ne_zero (Nat.ne_of_gt (Nat.zero_lt_of_lt most))
    rcases page_cases present positive offset with ended | ⟨part, asked, some, left⟩
    · rw [scanFrom_of_end present ended, scanFrom_of_end present ended]
    · have fewer := Record.length_behind_page left some enough
      rw [scanFrom_of_page asked some, scanFrom_of_page asked some]
      simp only [ih fewer (Nat.le_of_succ_le_succ most)]

/-- A scan that succeeds has read all rows that were left, and what they give. -/
theorem gives_of_scanFrom {size : Nat} (positive : 0 < size) {steps offset delivered : Nat}
    (enough : ((Record.uris records).drop offset).length ≤ steps) {stream : RowStream}
    {state last : σ} {count : Nat}
    (ran : scope.scanFrom database table size handler steps offset delivered stream state =
      (last, .ok count)) :
    (∀ uri ∈ (Record.uris records).drop offset, Record.AreLegible records uri) ∧
      ∃ decoded, stream.Gives scope.registry scope.settings.read
        (((Record.uris records).drop offset).flatMap (Record.rowsOf records)) decoded := by
  have atEnd {delivered : Nat} {stream : RowStream} {state : σ} {offset : Nat}
      (ended : (Record.uris records).drop offset = [])
      (ran : scope.scanLast handler state delivered stream = (last, .ok count)) :
      (∀ uri ∈ (Record.uris records).drop offset, Record.AreLegible records uri) ∧
        ∃ decoded, stream.Gives scope.registry scope.settings.read
          (((Record.uris records).drop offset).flatMap (Record.rowsOf records)) decoded := by
    rw [ended]
    exact ⟨fun _ listed => absurd listed List.not_mem_nil, gives_of_scanLast ran⟩
  induction steps generalizing offset delivered stream state with
  | zero => exact atEnd (List.length_eq_zero_iff.1 (Nat.le_zero.1 enough)) ran
  | succ steps ih =>
    rcases page_cases present positive offset with ended | ⟨part, asked, some, left⟩
    · rw [scanFrom_of_end present ended] at ran
      exact atEnd ended ran
    · have fewer := Record.length_behind_page left some enough
      have ascending := Record.ascending_page left
      rw [scanFrom_of_page asked some] at ran
      cases streamed : scope.streamPage database table part stream with
      | error error => simp [streamed] at ran
      | ok result =>
        obtain ⟨next, objects⟩ := result
        have later : ∃ delivered state, scope.scanFrom database table size handler steps
            (offset + part.length) delivered next state = (last, .ok count) := by
          rw [streamed] at ran
          cases objects with
          | nil => exact ⟨_, _, ran⟩
          | cons object others =>
            cases accepted : handler state (object :: others) with
            | error error => simp [accepted] at ran
            | ok changed => exact ⟨_, _, by simpa [accepted] using ran⟩
        obtain ⟨_, _, later⟩ := later
        obtain ⟨legible, decoded, pushed, rfl⟩ :=
          (streamPage_eq_ok_iff present ascending).1 streamed
        obtain ⟨others, rest, gives⟩ := ih fewer later
        rw [left, List.flatMap_append]
        refine ⟨fun uri listed => ?_, _, RowStream.gives_append.2 ⟨next, decoded, rest, pushed, gives, rfl⟩⟩
        rcases List.mem_append.1 listed with here | behind
        · exact legible uri here
        · exact others uri behind

end Steps

/-- A scan that is never stopped hands over what the rows that are left give, whatever is made of
the pages. -/
theorem exists_pages_of_gives {size : Nat} (positive : 0 < size)
    (legible : ∀ uri ∈ Record.uris records, Record.AreLegible records uri) {steps offset : Nat}
    (enough : ((Record.uris records).drop offset).length ≤ steps) {stream : RowStream}
    {decoded : List DecodedObject}
    (gives : stream.Gives scope.registry scope.settings.read
      (((Record.uris records).drop offset).flatMap (Record.rowsOf records)) decoded) :
    ∃ pages : List (List GraphObject), pages.flatten = decoded.map (·.object) ∧
      (∀ page ∈ pages, page ≠ []) ∧
      ∀ {σ : Type} (handler : σ → List GraphObject → σ) (delivered : Nat) (state : σ),
        scope.scanFrom database table size (fun state page => .ok (handler state page)) steps offset
          delivered stream state = (pages.foldl handler state, .ok (delivered + decoded.length)) := by
  induction steps generalizing offset stream decoded with
  | zero =>
    have ended := List.length_eq_zero_iff.1 (Nat.le_zero.1 enough)
    simp only [scanFrom_of_end present ended]
    rw [ended, List.flatMap_nil] at gives
    exact exists_pages_of_scanLast gives
  | succ steps ih =>
    rcases page_cases present positive offset with ended | ⟨part, asked, some, left⟩
    · simp only [scanFrom_of_end present ended]
      rw [ended, List.flatMap_nil] at gives
      exact exists_pages_of_scanLast gives
    · have fewer := Record.length_behind_page left some enough
      have among : part ⊆ Record.uris records :=
        fun _ inside => List.mem_of_mem_drop (left ▸ List.mem_append_left _ inside)
      have ascending := Record.ascending_page left
      rw [left, List.flatMap_append] at gives
      obtain ⟨next, first, others, pushed, later, rfl⟩ := RowStream.gives_append.1 gives
      have streamed := (streamPage_eq_ok_iff present ascending).2
        ⟨fun uri inside => legible uri (among inside), first, pushed, rfl⟩
      obtain ⟨pages, whole, filled, ran⟩ := ih fewer later
      cases first with
      | nil =>
        refine ⟨pages, whole, filled, fun handler delivered state => ?_⟩
        rw [scanFrom_of_page asked some, streamed]
        exact ran handler delivered state
      | cons object more =>
        refine ⟨(object :: more).map (·.object) :: pages, ?_, ?_, fun handler delivered state => ?_⟩
        · rw [List.flatten_cons, whole, List.map_append]
        · exact List.forall_mem_cons.2 ⟨List.cons_ne_nil _ _, filled⟩
        · rw [scanFrom_of_page asked some, streamed]
          refine (ran handler _ _).trans ?_
          simp [Nat.add_assoc, Nat.add_comm, Nat.add_left_comm]

/-- Objects asked for in ascending order are loaded in this order. -/
theorem load_ascending {part : UriSet} (ascending : UriSet.IsAscending part)
    (readable : ∀ uri ∈ part, ∃ read,
      Record.readObject scope.registry scope.settings.read records uri = .ok read) :
    scope.load database table part = .ok
      (part.filterMap (Record.objectOf scope.registry scope.settings.read records)) := by
  have loaded := (load_eq_ok_iff present
    fun _ _ _ => Statement.inOnePart_of_nodup ascending.nodup).2 ⟨readable, rfl⟩
  rwa [UriSet.ofList_of_ascending ascending] at loaded

end StoreScope

end Present

namespace StoreScope

section Segments

variable {scope : StoreScope} {database : Database} {segment : Segment} {records : List Record}
  (there : scope.hasSegment database segment = true)
  (present : database.recordsOf (scope.table segment) = .ok records)
include there present

theorem scan_eq {σ : Type} {size : Nat} (positive : 0 < size)
    (handler : σ → List GraphObject → Except Error σ) (state : σ) :
    scope.scan database segment size handler state =
      scope.scanFrom database (scope.table segment) size handler (Record.uris records).length 0 0
        .start state := by
  rw [scan, if_neg positive.ne', requireTable, if_pos there]
  simp only [Database.countObjects_eq present]

section Readable

variable (readable : ∀ uri ∈ Record.uris records, ∃ read,
  Record.readObject scope.registry scope.settings.read records uri = .ok read)
include readable

/-- All objects of a segment are handed over. -/
theorem exists_pages_of_scan {size : Nat} (positive : 0 < size) :
    let objects := (Record.uris records).filterMap
      (Record.objectOf scope.registry scope.settings.read records)
    ∃ pages : List (List GraphObject), pages.flatten = objects ∧ (∀ page ∈ pages, page ≠ []) ∧
      ∀ {σ : Type} (handler : σ → List GraphObject → σ) (state : σ),
        scope.scan database segment size (fun state page => .ok (handler state page)) state =
          (pages.foldl handler state, .ok objects.length) := by
  intro objects
  have legible : ∀ uri ∈ Record.uris records, Record.AreLegible records uri := by
    intro uri listed
    obtain ⟨read, ran⟩ := readable uri listed
    exact (Record.readObject_eq_ok.1 ran).1
  have ascending := Record.ascending_uris records
  obtain ⟨read, ran⟩ := exists_mapM readable
  have gives : RowStream.start.Gives scope.registry scope.settings.read
      (((Record.uris records).drop 0).flatMap (Record.rowsOf records)) read.reduceOption :=
    RowStream.gives_start_iff.2
      ⟨Row.runsAscend_flatMap (fun _ _ => Record.uri_of_mem_rowsOf) ascending,
        (Record.ofBatch_rowsOf_eq_ok ascending.nodup legible).2 ⟨read, ran, rfl⟩⟩
  have same : read.reduceOption.map (·.object) = objects := Record.map_object_of_mapM ran
  have all : ((Record.uris records).drop 0).length ≤ (Record.uris records).length := le_rfl
  obtain ⟨pages, whole, filled, scanned⟩ :=
    exists_pages_of_gives present positive legible all gives
  refine ⟨pages, whole.trans same, filled, fun handler state => ?_⟩
  rw [scan_eq there present positive, ← same, List.length_map]
  simpa using scanned handler 0 state

theorem exportPage_eq (offset limit : Nat) :
    scope.exportPage database segment offset limit =
      .ok ⟨(((Record.uris records).drop offset).take limit).filterMap
        (Record.objectOf scope.registry scope.settings.read records),
        (Record.uris records).length, offset, limit⟩ := by
  have part := (List.take_sublist limit _).trans (List.drop_sublist offset (Record.uris records))
  rw [exportPage, requireTable, if_pos there, ok_bind, Database.countObjects_eq present, ok_bind,
    Fetching.run_page present, ok_bind,
    load_ascending present ((Record.ascending_uris records).sublist part)
      fun uri listed => readable uri (part.subset listed)]
  rfl

theorem getBatch_uris :
    scope.getBatch database [segment] (Record.uris records) = .ok ((Record.uris records).filterMap
      (Record.objectOf scope.registry scope.settings.read records)) := by
  have ascending := Record.ascending_uris records
  have loaded : scope.loadFrom database (Record.uris records) [(segment, scope.table segment)] =
      .ok ((Record.uris records).filterMap
        (Record.objectOf scope.registry scope.settings.read records)) := by
    cases some : Record.uris records with
    | nil => rfl
    | cons uri rest =>
      rw [← some, loadFrom, if_neg (by simp [some]), load_ascending present ascending readable]
      simp only [ok_bind, loadFrom]
      simp [pure, Except.pure]
  have places : (Record.uris records).Pairwise fun a b =>
      (Record.uris records).idxOf a < (Record.uris records).idxOf b := by
    have pairs := pairwise_idxOf_eraseDups (Record.uris records)
    rwa [eraseDups_of_nodup ascending.nodup] at pairs
  have inOrder : ((Record.uris records).filterMap
      (Record.objectOf scope.registry scope.settings.read records)).Pairwise fun a b =>
        decide ((Record.uris records).idxOf a.uri ≤ (Record.uris records).idxOf b.uri) = true := by
    have kept := places.filter fun uri =>
      (Record.objectOf scope.registry scope.settings.read records uri).isSome
    rw [← Record.map_uri_objectOf] at kept
    exact (List.pairwise_map.1 kept).imp fun below => decide_eq_true below.le
  rw [getBatch, poolTables_singleton there, loaded, ok_bind, List.mergeSort_of_pairwise inOrder]
  rfl

end Readable

/-- Every way to read a whole segment gives its objects in ascending order: a scan with pages of any
size, exports of consecutive pages, and fetching all its URIs. A scan fails if the records of one
object cannot be read. -/
theorem full_reads_agree :
    let held := Record.uris records
    let read := Record.readObject scope.registry scope.settings.read records
    let objects := held.filterMap (Record.objectOf scope.registry scope.settings.read records)
    ((∀ uri ∈ held, ∃ decoded, read uri = .ok decoded) →
      objects.Pairwise (fun a b => a.uri < b.uri) ∧
      ((scope.settings.read.ignoreBroken = false ∨
        ∀ uri ∈ held, ∃ decoded, read uri = .ok (some decoded)) → objects.map (·.uri) = held) ∧
      (∀ size, 0 < size → ∃ pages : List (List GraphObject),
        pages.flatten = objects ∧ (∀ page ∈ pages, page ≠ []) ∧
          ∀ {σ : Type} (handler : σ → List GraphObject → σ) (state : σ),
            scope.scan database segment size (fun state page => .ok (handler state page)) state =
              (pages.foldl handler state, .ok objects.length)) ∧
      (∀ limit, 0 < limit → ∃ pages : Nat → List GraphObject,
        (∀ number, scope.exportPage database segment (number * limit) limit =
          .ok ⟨pages number, held.length, number * limit, limit⟩) ∧
        ∀ count, held.length ≤ count * limit → (List.range count).flatMap pages = objects) ∧
      scope.getBatch database [segment] held = .ok objects) ∧
    ((∃ uri ∈ held, ∃ error, read uri = .error error) →
      ∀ (size : Nat) {σ : Type} (handler : σ → List GraphObject → Except Error σ) (state : σ),
        ∃ error, (scope.scan database segment size handler state).2 = .error error) ∧
    ∀ (size steps : Nat), 0 < size → held.length ≤ steps →
      ∀ {σ : Type} (handler : σ → List GraphObject → Except Error σ) (state : σ),
        scope.scanFrom database (scope.table segment) size handler steps 0 0 .start state =
          scope.scan database segment size handler state := by
  intro held read objects
  have all : ((Record.uris records).drop 0).length ≤ (Record.uris records).length := le_rfl
  refine ⟨fun readable => ⟨?_, fun whole => ?_, fun size positive => ?_, fun limit positive => ?_,
    getBatch_uris there present readable⟩, fun broken size σ handler state => ?_,
    fun size steps positive enough σ handler state => ?_⟩
  · refine List.pairwise_map.1 ?_
    rw [Record.map_uri_objectOf]
    exact (Record.ascending_uris records).filter _
  · rw [Record.map_uri_objectOf, List.filter_eq_self]
    intro uri listed
    obtain ⟨decoded, ran⟩ := readable uri listed
    rcases whole with strict | each
    · exact Record.isSome_objectOf strict (Record.mem_uris.1 listed) ran
    · obtain ⟨decoded, ran⟩ := each uri listed
      exact Record.isSome_objectOf_iff.2 ⟨decoded, ran⟩
  · exact exists_pages_of_scan there present readable positive
  · refine ⟨_, fun number => exportPage_eq there present readable _ _, fun count all => ?_⟩
    rw [← List.filterMap_flatMap, flatMap_slices, List.take_of_length_le all]
  · rcases Nat.eq_zero_or_pos size with rfl | positive
    · exact ⟨_, rfl⟩
    · cases ran : (scope.scan database segment size handler state).2 with
      | error error => exact ⟨error, rfl⟩
      | ok count =>
        obtain ⟨uri, listed, error, fails⟩ := broken
        rw [scan_eq there present positive] at ran
        obtain ⟨legible, decoded, gives⟩ :=
          gives_of_scanFrom present positive all (Prod.ext rfl ran)
        obtain ⟨others, each, -⟩ := (Record.ofBatch_rowsOf_eq_ok
          (Record.ascending_uris records).nodup legible).1 (RowStream.gives_start_iff.1 gives).2
        obtain ⟨own, -, reads⟩ := exists_of_mapM each listed
        exact absurd (fails.symm.trans reads) (by simp)
  · rw [scan_eq there present positive]
    exact scanFrom_of_enough present positive all enough

end Segments

/-- Two nodes are scanned object by object, exported and fetched. -/
theorem full_reads_agree_two_nodes :
    let scope : StoreScope := ⟨.core, (Configuration.standard "segments.sqlite").searchSettings⟩
    let segment : Segment := ⟨"s", "urn:s"⟩
    let rows := ["urn:b", "urn:a"].flatMap fun uri =>
      ((GraphObject.ofClass uri Vocabulary.nodeClass).toRows .core).toOption.getD []
    let database := Database.ofTable (scope.table segment) (rows.map .ofRow)
    ∃ objects : List GraphObject, objects.map (·.uri) = ["urn:a", "urn:b"] ∧
      scope.scan database segment 1 (fun seen page => .ok (seen ++ page)) [] = (objects, .ok 2) ∧
      (∃ pages : Nat → List GraphObject, (∀ number,
        scope.exportPage database segment (number * 1) 1 = .ok ⟨pages number, 2, number * 1, 1⟩) ∧
          (List.range 2).flatMap pages = objects) ∧
      scope.getBatch database [segment] ["urn:a", "urn:b"] = .ok objects := by
  intro scope segment rows database
  have there : scope.hasSegment database segment = true := by decide +kernel
  have present := Database.recordsOf_ofTable (scope.table segment) (rows.map .ofRow)
  have known : ((rows.map Record.ofRow).map (·.uri)).eraseDups = ["urn:b", "urn:a"] := by
    decide +kernel
  have ascending : UriSet.IsAscending ["urn:a", "urn:b"] := List.pairwise_pair.2 (by decide)
  have held : Record.uris (rows.map .ofRow) = ["urn:a", "urn:b"] := by
    refine (Record.ascending_uris _).ext ascending fun uri => ?_
    rw [Record.uris, UriSet.mem_ofList, ← List.mem_eraseDups, known]
    simp [or_comm]
  have readable : ∀ uri ∈ ["urn:a", "urn:b"], ∃ decoded,
      Record.readObject scope.registry scope.settings.read (rows.map .ofRow) uri = .ok decoded := by
    have each : ∀ uri ∈ ["urn:a", "urn:b"], (Record.readObject scope.registry scope.settings.read
        (rows.map .ofRow) uri).toOption.isSome = true := by decide +kernel
    intro uri listed
    obtain ⟨decoded, read⟩ := Option.isSome_iff_exists.1 (each uri listed)
    exact ⟨decoded, eq_ok_of_toOption read⟩
  obtain ⟨agree, -, -⟩ := full_reads_agree there present
  rw [held] at agree
  obtain ⟨-, whole, scans, exports, batch⟩ := agree readable
  have uris := whole (.inl rfl)
  have two := (List.length_map _).symm.trans (congrArg List.length uris)
  obtain ⟨pages, joined, -, scanned⟩ := scans 1 Nat.one_pos
  obtain ⟨parts, exported, parted⟩ := exports 1 Nat.one_pos
  refine ⟨_, uris, ?_, ⟨parts, exported, parted 2 le_rfl⟩, batch⟩
  refine (scanned (fun seen page => seen ++ page) []).trans
    (Prod.ext ?_ (congrArg Except.ok two))
  rw [List.foldl_append_eq_append, List.map_id', List.nil_append, joined]

end StoreScope

end GraphSegments
