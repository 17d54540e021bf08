import GraphSegments.Proofs.Lists
import GraphSegments.Proofs.Results
import GraphSegments.Proofs.Table.Reading

/-!
Reading the objects of a batch of rows. Each object is read from its own rows only, so the rows of
one object in front of those of others are read as that object first.
-/

namespace GraphSegments
open Results GraphSegments.Lists

namespace DecodedObject

variable {registry : Registry} {options : ReadOptions}

/-- What is read of rows is the object that they are of. -/
theorem uri_of_ofRows {uri : String} {rows : List Row} (alike : ∀ row ∈ rows, row.uri = uri)
    {decoded : DecodedObject} (read : ofRows registry options rows = .ok (some decoded)) :
    decoded.object.uri = uri := by
  cases rows with
  | nil => cases Except.ok.inj read
  | cons first rest =>
    obtain ⟨grouped, -, read⟩ := ofRows_eq_some.1 read
    obtain ⟨_, _, _, -, -, -, -, -, rfl⟩ := ReadingScope.readGrouped_eq_ok.1 read
    exact alike first List.mem_cons_self

/-- Where broken objects are refused, rows are read as an object or not at all. -/
theorem exists_of_ofRows (strict : options.ignoreBroken = false) {rows : List Row} (some : rows ≠ [])
    {read : Option DecodedObject} (ran : ofRows registry options rows = .ok read) :
    ∃ decoded, read = .some decoded := by
  cases rows with
  | nil => exact absurd rfl some
  | cons first rest =>
    obtain ⟨grouped, -, ran⟩ := bind_eq_ok.1 ran
    obtain ⟨outcome, -, ran⟩ := bind_eq_ok.1 ran
    cases outcome with
    | ok decoded => exact ⟨decoded, (Except.ok.inj ran).symm⟩
    | error cause =>
      simp only [strict, Bool.false_eq_true, if_false] at ran
      cases ran

/-- Where broken objects are refused, a batch gives one object for each URI in it. -/
theorem uris_of_ofBatch (strict : options.ignoreBroken = false) {rows : List Row}
    {decoded : List DecodedObject} (ran : ofBatch registry options rows = .ok decoded) :
    decoded.map (·.object.uri) = (rows.map (·.uri)).eraseDups := by
  have each (uris : List String) (known : ∀ uri ∈ uris, ∃ row ∈ rows, row.uri = uri)
      {decoded : List DecodedObject} (ran : ofUris registry options rows uris = .ok decoded) :
      decoded.map (·.object.uri) = uris := by
    induction uris generalizing decoded with
    | nil =>
      obtain rfl := Except.ok.inj ran
      rfl
    | cons uri rest ih =>
      obtain ⟨here, later⟩ := List.forall_mem_cons.1 known
      obtain ⟨read, first, ran⟩ := bind_eq_ok.1 ran
      obtain ⟨others, remaining, joined⟩ := bind_eq_ok.1 ran
      obtain rfl := Except.ok.inj joined
      obtain ⟨row, isRow, mine⟩ := here
      have some : rows.filter (·.uri == uri) ≠ [] :=
        List.ne_nil_of_mem (List.mem_filter.2 ⟨isRow, beq_iff_eq.2 mine⟩)
      obtain ⟨decoded, rfl⟩ := exists_of_ofRows strict some first
      have alike : ∀ row ∈ rows.filter (·.uri == uri), row.uri = uri := fun row kept =>
        beq_iff_eq.1 (List.mem_filter.1 kept).2
      have same := uri_of_ofRows alike first
      simp [same, ih later remaining]
  refine each _ (fun uri listed => ?_) ran
  obtain ⟨row, isRow, same⟩ := List.mem_map.1 (List.mem_eraseDups.1 listed)
  exact ⟨row, isRow, same⟩

/-- Only the rows of an object count for it. -/
theorem ofUris_congr {left right : List Row} {uris : List String}
    (same : ∀ uri ∈ uris, left.filter (·.uri == uri) = right.filter (·.uri == uri)) :
    ofUris registry options left uris = ofUris registry options right uris := by
  induction uris with
  | nil => rfl
  | cons uri rest ih =>
    obtain ⟨here, later⟩ := List.forall_mem_cons.1 same
    rw [ofUris, ofUris, here, ih later]

/-- The rows of one object in front of the rows of others are read as that object first. -/
theorem ofBatch_append {uri : String} {group rest : List Row} (alike : ∀ row ∈ group, row.uri = uri)
    (some : group ≠ []) (apart : ∀ row ∈ rest, row.uri ≠ uri) :
    ofBatch registry options (group ++ rest) = do
      let decoded ← ofRows registry options group
      let others ← ofBatch registry options rest
      return decoded.toList ++ others := by
  have mine : (group ++ rest).filter (·.uri == uri) = group := by
    rw [List.filter_append, List.filter_eq_self.2 fun row listed => by simp [alike row listed],
      List.filter_eq_nil_iff.2 fun row listed => by simp [apart row listed], List.append_nil]
  have remaining : (rest.map (·.uri)).removeAll (group.map (·.uri)) = rest.map (·.uri) := by
    apply List.filter_eq_self.2
    intro other listed
    obtain ⟨row, member, rfl⟩ := List.mem_map.1 listed
    have fresh : row.uri ∉ group.map (·.uri) := by
      intro known
      obtain ⟨first, inside, same⟩ := List.mem_map.1 known
      exact apart row member (same.symm.trans (alike first inside))
    simpa using fresh
  have order : ((group ++ rest).map (·.uri)).eraseDups = uri :: (rest.map (·.uri)).eraseDups := by
    rw [List.map_append, List.eraseDups_append, eraseDups_of_alike Row.uri alike some, remaining,
      List.singleton_append]
  have others : ofUris registry options (group ++ rest) (rest.map (·.uri)).eraseDups =
      ofBatch registry options rest := by
    apply ofUris_congr
    intro other listed
    obtain ⟨row, member, rfl⟩ := List.mem_map.1 (List.mem_eraseDups.1 listed)
    rw [List.filter_append, List.filter_eq_nil_iff.2 fun first inside => by
      simpa [alike first inside] using (apart row member).symm, List.nil_append]
  rw [ofBatch, order, ofUris, mine, others]

/-- Rows of one object are read as that object. -/
theorem ofBatch_of_alike {uri : String} {rows : List Row} (alike : ∀ row ∈ rows, row.uri = uri)
    (registry : Registry) (options : ReadOptions) :
    ofBatch registry options rows = (ofRows registry options rows).map Option.toList := by
  by_cases some : rows = []
  · subst some
    rfl
  · have batch : ofBatch registry options (rows ++ []) = _ := ofBatch_append alike some (by simp)
    rw [List.append_nil] at batch
    rw [batch]
    cases ofRows registry options rows with
    | error error => rfl
    | ok decoded => simp [ofBatch, ofUris, Except.map, pure, Except.pure]

end DecodedObject

end GraphSegments
