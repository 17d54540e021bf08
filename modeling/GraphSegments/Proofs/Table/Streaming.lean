import GraphSegments.Proofs.Table.Batches
import GraphSegments.Table.Stream
import Mathlib.Data.List.ReduceOption
import Mathlib.Data.List.SplitBy
import Mathlib.Data.Set.List
import Mathlib.Data.String.Basic

/-!
A stream of rows gives the objects that the batch of all its rows gives, in the same order, exactly
if the rows of every object come together and the objects in ascending order of their URIs.
Otherwise it fails, as it does for a batch that cannot be read.
-/

namespace GraphSegments
open Results

namespace Row

/-- The longest runs of rows of one URI. -/
def runs (rows : List Row) : List (List Row) := rows.splitBy fun a b => a.uri == b.uri

/-- The URIs of the runs ascend strictly. -/
def RunsAscend (rows : List Row) : Prop :=
  (runs rows).Pairwise fun earlier later => ∀ a ∈ earlier, ∀ b ∈ later, a.uri < b.uri

section Alike

variable {uri : String} {group : List Row} (alike : ∀ row ∈ group, row.uri = uri)
  (some : group ≠ [])
include alike some

/-- Rows of one URI are one run. -/
theorem runs_of_alike : runs group = [group] := by
  apply List.splitBy_of_isChain some
  apply List.Pairwise.isChain
  refine List.Pairwise.imp_of_mem (fun {a b} first second _ => ?_)
    (List.pairwise_of_forall fun _ _ => trivial)
  simp [alike a first, alike b second]

theorem runsAscend_of_alike : RunsAscend group := by
  rw [RunsAscend, runs_of_alike alike some]
  exact List.pairwise_singleton _ _

/-- A row of another URI starts another run. -/
theorem runs_append_cons {row : Row} (other : row.uri ≠ uri) (rest : List Row) :
    runs (group ++ row :: rest) = group :: runs (row :: rest) := by
  have ends : ∀ last ∈ group.getLast?, (last.uri == row.uri) = false := by
    intro last listed
    simpa [alike last (List.mem_of_getLast? listed)] using other.symm
  rw [runs, List.splitBy_append_cons rest ends]
  exact congrArg (· ++ _) (runs_of_alike alike some)

end Alike

/-- Rows whose runs ascend are themselves in ascending order. -/
theorem RunsAscend.pairwise {rows : List Row} (ascend : RunsAscend rows) :
    rows.Pairwise fun a b => a.uri ≤ b.uri := by
  have inside : ∀ run ∈ runs rows, run.Pairwise fun a b => a.uri ≤ b.uri := by
    intro run listed
    have chain := List.isChain_of_mem_splitBy listed
    exact (chain.imp fun a b same => (beq_iff_eq.1 same).le).pairwise
  have between := ascend.imp fun below a first b second => (below a first b second).le
  have sorted := List.pairwise_flatten.2 ⟨inside, between⟩
  rwa [runs, List.flatten_splitBy] at sorted

/-- With a row of another URI behind them, rows of one URI come first exactly if their URI is the
smaller one. -/
theorem runsAscend_append_cons {uri : String} {group rest : List Row} {row : Row}
    (alike : ∀ row ∈ group, row.uri = uri) (some : group ≠ []) (other : row.uri ≠ uri) :
    RunsAscend (group ++ row :: rest) ↔ uri < row.uri ∧ RunsAscend (row :: rest) := by
  have first := List.exists_mem_of_ne_nil group some
  have joined : (runs (row :: rest)).flatten = row :: rest := List.flatten_splitBy ..
  rw [RunsAscend, runs_append_cons alike some other, List.pairwise_cons]
  apply and_congr_left
  intro ascend
  constructor
  · intro below
    obtain ⟨member, listed⟩ := first
    obtain ⟨run, isRun, inside⟩ :=
      List.mem_flatten.1 (joined.symm ▸ (List.mem_cons_self : row ∈ row :: rest))
    exact alike member listed ▸ below run isRun member listed row inside
  · intro below run isRun a inGroup b inRun
    have later : b ∈ row :: rest := joined ▸ List.mem_flatten.2 ⟨run, isRun, inRun⟩
    have above : row.uri ≤ b.uri := by
      rcases List.mem_cons.1 later with rfl | behind
      · exact le_rfl
      · exact (List.pairwise_cons.1 (RunsAscend.pairwise ascend)).1 b behind
    exact alike a inGroup ▸ below.trans_le above

/-- What follows the rows of one object in ascending order has other URIs. -/
theorem ne_of_runsAscend {uri : String} {rest : List Row} {row : Row} (below : uri < row.uri)
    (ascend : RunsAscend (row :: rest)) : ∀ later ∈ row :: rest, later.uri ≠ uri := by
  intro later listed
  have above : row.uri ≤ later.uri := by
    rcases List.mem_cons.1 listed with rfl | behind
    · exact le_rfl
    · exact (List.pairwise_cons.1 ascend.pairwise).1 later behind
  exact (below.trans_le above).ne'

end Row

namespace RowStream

variable {registry : Registry} {options : ReadOptions}

/-- Everything that is given for some rows and the end after them, if nothing fails. -/
def Gives (registry : Registry) (options : ReadOptions) (stream : RowStream) (rows : List Row)
    (objects : List DecodedObject) : Prop :=
  ∃ given : List (Option DecodedObject),
    stream.results registry options rows = given.map .ok ∧ given.reduceOption = objects

theorem gives_nil {stream : RowStream} {objects : List DecodedObject} :
    stream.Gives registry options [] objects ↔
      ∃ last, stream.finish registry options = .ok last ∧ last.toList = objects := by
  constructor
  · intro gives
    obtain ⟨given, all, rfl⟩ := gives
    obtain ⟨last, rfl⟩ : ∃ last, given = [last] :=
      List.length_eq_one_iff.1 (by simpa [results] using (congrArg List.length all).symm)
    exact ⟨last, List.head_eq_of_cons_eq all, by cases last <;> rfl⟩
  · intro ended
    obtain ⟨last, finished, rfl⟩ := ended
    exact ⟨[last], by rw [results, finished]; rfl, by cases last <;> rfl⟩

theorem gives_cons {stream : RowStream} {row : Row} {rest : List Row}
    {objects : List DecodedObject} :
    stream.Gives registry options (row :: rest) objects ↔
      ∃ next finished others, stream.push registry options row = (next, .ok finished) ∧
        next.Gives registry options rest others ∧ finished.toList ++ others = objects := by
  constructor
  · intro gives
    obtain ⟨given, all, rfl⟩ := gives
    cases given with
    | nil => cases all
    | cons finished given =>
      obtain ⟨here, later⟩ := List.cons.inj all
      refine ⟨_, finished, given.reduceOption, Prod.ext rfl here, ⟨given, later, rfl⟩, ?_⟩
      cases finished <;> rfl
  · intro pushed
    obtain ⟨next, finished, _, pushed, ⟨given, later, rfl⟩, rfl⟩ := pushed
    refine ⟨finished :: given, ?_, by cases finished <;> rfl⟩
    rw [results, pushed]
    exact congrArg _ later

section Collecting

variable {uri : String} {group : List Row} (alike : ∀ row ∈ group, row.uri = uri)
  (some : group ≠ []) (last : Option String)
include alike some

theorem flush_collecting :
    (⟨group, last⟩ : RowStream).flush registry options =
      (⟨[], .some uri⟩, DecodedObject.ofRows registry options group) := by
  cases group with
  | nil => exact absurd rfl some
  | cons first rest => simp [flush, alike first List.mem_cons_self]

/-- A row of the object that is being collected joins its rows. -/
theorem push_same {row : Row} (same : row.uri = uri) :
    (⟨group, last⟩ : RowStream).push registry options row = (⟨group ++ [row], last⟩, .ok none) := by
  cases group with
  | nil => exact absurd rfl some
  | cons first rest =>
    have mine : first.uri = row.uri := (alike first List.mem_cons_self).trans same.symm
    simp [push, mine]

/-- A row of another object is taken exactly if the object before can be read and comes first. -/
theorem push_other {row : Row} (other : row.uri ≠ uri) {next : RowStream}
    {finished : Option DecodedObject} :
    (⟨group, last⟩ : RowStream).push registry options row = (next, .ok finished) ↔
      uri < row.uri ∧ DecodedObject.ofRows registry options group = .ok finished ∧
        next = ⟨[row], .some uri⟩ := by
  have apart : group.head?.any (·.uri == row.uri) = false := by
    cases group with
    | nil => rfl
    | cons first rest => simpa [alike first List.mem_cons_self] using other.symm
  rw [push, if_neg (by simp [apart]), flush_collecting alike some]
  cases DecodedObject.ofRows registry options group with
  | error error => simp
  | ok decoded =>
    by_cases below : uri < row.uri
    · simp [below, below.not_ge, and_comm, eq_comm]
    · simp [below, not_lt.1 below]

end Collecting

/-- While the rows of an object are collected, a stream goes on as the batch of these rows and of
those to come is read. -/
theorem gives_collecting_iff {uri : String} {group : List Row}
    (alike : ∀ row ∈ group, row.uri = uri) (some : group ≠ []) (last : Option String)
    (rows : List Row) {objects : List DecodedObject} :
    (⟨group, last⟩ : RowStream).Gives registry options rows objects ↔
      Row.RunsAscend (group ++ rows) ∧
        DecodedObject.ofBatch registry options (group ++ rows) = .ok objects := by
  induction rows generalizing group uri last objects with
  | nil =>
    rw [gives_nil, finish, flush_collecting alike some, List.append_nil,
      DecodedObject.ofBatch_of_alike alike, map_eq_ok]
    exact (and_iff_right (Row.runsAscend_of_alike alike some)).symm
  | cons row rest ih =>
    rw [gives_cons]
    by_cases same : row.uri = uri
    · have joined : ∀ other ∈ group ++ [row], other.uri = uri := by
        simpa [or_imp, forall_and, same] using alike
      have step : (⟨group ++ [row], last⟩ : RowStream).Gives registry options rest objects ↔ _ :=
        ih joined (by simp) last
      rw [List.append_assoc, List.singleton_append] at step
      rw [push_same alike some last same, ← step]
      constructor
      · intro pushed
        obtain ⟨_, _, _, ⟨rfl, rfl⟩, gives, rfl⟩ := pushed
        exact gives
      · intro gives
        exact ⟨_, none, objects, rfl, gives, rfl⟩
    · have alone : ∀ other ∈ [row], other.uri = row.uri := by simp
      have started (others : List DecodedObject) :
          (⟨[row], .some uri⟩ : RowStream).Gives registry options rest others ↔
            Row.RunsAscend (row :: rest) ∧
              DecodedObject.ofBatch registry options (row :: rest) = .ok others :=
        ih alone (List.cons_ne_nil _ _) (.some uri)
      simp only [push_other alike some last same, Row.runsAscend_append_cons alike some same]
      constructor
      · intro pushed
        obtain ⟨_, finished, others, ⟨below, read, rfl⟩, gives, rfl⟩ := pushed
        obtain ⟨ascend, batch⟩ := (started others).1 gives
        refine ⟨⟨below, ascend⟩, ?_⟩
        rw [DecodedObject.ofBatch_append alike some (Row.ne_of_runsAscend below ascend), read,
          ok_bind, batch]
        rfl
      · intro batch
        obtain ⟨⟨below, ascend⟩, batch⟩ := batch
        rw [DecodedObject.ofBatch_append alike some (Row.ne_of_runsAscend below ascend)] at batch
        obtain ⟨finished, read, batch⟩ := bind_eq_ok.1 batch
        obtain ⟨others, batch, joined⟩ := bind_eq_ok.1 batch
        exact ⟨_, finished, others, ⟨below, read, rfl⟩, (started others).2 ⟨ascend, batch⟩,
          Except.ok.inj joined⟩

/-- A fresh stream gives what the batch of all rows gives. -/
theorem gives_start_iff {rows : List Row} {objects : List DecodedObject} :
    start.Gives registry options rows objects ↔
      Row.RunsAscend rows ∧ DecodedObject.ofBatch registry options rows = .ok objects := by
  cases rows with
  | nil =>
    have empty : Row.RunsAscend [] := List.Pairwise.nil
    rw [gives_nil, and_iff_right empty]
    simp [start, finish, flush, DecodedObject.ofBatch, DecodedObject.ofUris]
  | cons row rest =>
    have alone : ∀ other ∈ [row], other.uri = row.uri := by simp
    have pushed : start.push registry options row = (⟨[row], none⟩, .ok none) := rfl
    have collecting : (⟨[row], none⟩ : RowStream).Gives registry options rest objects ↔ _ :=
      gives_collecting_iff alone (List.cons_ne_nil _ _) none rest
    rw [List.singleton_append] at collecting
    rw [gives_cons, pushed, ← collecting]
    constructor
    · intro given
      obtain ⟨_, _, _, ⟨rfl, rfl⟩, gives, rfl⟩ := given
      exact gives
    · intro gives
      exact ⟨_, none, objects, rfl, gives, rfl⟩

/-- Rows that are streamed one by one are taken to the end without an error exactly if the runs of
equal URIs ascend and the rows can be read as one batch, and then the objects given on the way are
those of the batch in their order. -/
theorem streaming_is_batch (registry : Registry) (options : ReadOptions) (rows : List Row) :
    ((∀ result ∈ start.results registry options rows, ∃ given, result = .ok given) ↔
      Row.RunsAscend rows ∧
        ∃ objects, DecodedObject.ofBatch registry options rows = .ok objects) ∧
    ∀ given : List (Option DecodedObject), start.results registry options rows = given.map .ok →
      DecodedObject.ofBatch registry options rows = .ok given.reduceOption := by
  constructor
  · rw [← exists_and_left]
    simp only [← gives_start_iff]
    constructor
    · intro accepted
      have all : start.results registry options rows ∈ Set.range (List.map Except.ok) := by
        rw [Set.range_list_map]
        intro result listed
        obtain ⟨given, rfl⟩ := accepted result listed
        exact ⟨given, rfl⟩
      obtain ⟨given, all⟩ := all
      exact ⟨_, given, all.symm, rfl⟩
    · intro gives
      obtain ⟨_, given, all, -⟩ := gives
      rw [all, List.forall_mem_map]
      exact fun result _ => ⟨result, rfl⟩
  · intro given all
    exact (gives_start_iff.1 ⟨given, all, rfl⟩).2

/-- The rows of two nodes are streamed without an error. -/
theorem streaming_is_batch_two_nodes :
    let options : ReadOptions := ⟨.strict, false, false, .inline⟩
    let row (uri name : String) (multi : Bool) : Row := ⟨uri, name, Vocabulary.nodeClass, false,
      none, none, .uri Vocabulary.nodeClass, multi, none⟩
    let rows := ["urn:a", "urn:b"].flatMap fun uri =>
      [row uri Vocabulary.vitaltype false, row uri Vocabulary.types true]
    let objects := (DecodedObject.ofBatch .core options rows).toOption.getD []
    objects.map (·.object.uri) = ["urn:a", "urn:b"] ∧
      ∀ result ∈ start.results .core options rows, ∃ given, result = .ok given := by
  intro options row rows objects
  have ascend : Row.RunsAscend rows := by
    unfold Row.RunsAscend
    decide +kernel
  have batch : DecodedObject.ofBatch .core options rows = .ok objects :=
    eq_ok_of_toOption (by decide +kernel)
  exact ⟨by decide +kernel, (streaming_is_batch .core options rows).1.2 ⟨ascend, objects, batch⟩⟩

end RowStream

end GraphSegments
