import GraphSegments.Database.Matching

/-!
What conditions select: the objects with a row that satisfies a condition, whatever the rows of the
other columns hold.
-/

namespace GraphSegments

namespace Condition

variable (patterns : Patterns) (records : List Record)

@[simp] theorem holdsAll_iff (record : Record) (conditions : List Condition) :
    holdsAll patterns records record conditions = true ↔
      ∀ condition ∈ conditions, condition.holds patterns records record = true := by
  induction conditions with
  | nil => simp [holdsAll]
  | cons first rest ih => simp [holdsAll, ih]

@[simp] theorem holdsAny_iff (record : Record) (conditions : List Condition) :
    holdsAny patterns records record conditions = true ↔
      ∃ condition ∈ conditions, condition.holds patterns records record = true := by
  induction conditions with
  | nil => simp [holdsAny]
  | cons first rest ih => simp [holdsAny, ih]

theorem holds_all (record : Record) (conditions : List Condition) :
    (all conditions).holds patterns records record = true ↔
      ∀ condition ∈ conditions, condition.holds patterns records record = true := by
  rw [holds, holdsAll_iff]

theorem holds_any (record : Record) (conditions : List Condition) :
    (any conditions).holds patterns records record = true ↔
      ∃ condition ∈ conditions, condition.holds patterns records record = true := by
  rw [holds, holdsAny_iff]

/-- Whether an object has a row that satisfies a condition. -/
def Selects (condition : Condition) (uri : String) : Prop :=
  ∃ record ∈ records, record.uri = uri ∧ condition.holds patterns records record = true

theorem holds_among (record : Record) (inner : Condition) :
    (among inner).holds patterns records record = true ↔
      inner.Selects patterns records record.uri := by
  simp [holds, Selects]

theorem holds_notAmong (record : Record) (inner : Condition) :
    (notAmong inner).holds patterns records record = true ↔
      ¬ inner.Selects patterns records record.uri := by
  simp [holds, Selects]

/-- Conditions on the records that rows leave in a table select by those rows. -/
theorem selects_rows {patterns : Patterns} {rows : List Row} {condition : Condition}
    {uri : String} :
    condition.Selects patterns (rows.map .ofRow) uri ↔ ∃ row ∈ rows, row.uri = uri ∧
      condition.holds patterns (rows.map .ofRow) (.ofRow row) = true := by
  simp only [Selects, List.mem_map]
  constructor
  · intro selected
    obtain ⟨record, ⟨row, member, rfl⟩, same, holds⟩ := selected
    exact ⟨row, member, same, holds⟩
  · intro selected
    obtain ⟨row, member, same, holds⟩ := selected
    exact ⟨.ofRow row, ⟨row, member, rfl⟩, same, holds⟩

end Condition

namespace Select

variable {patterns : Patterns} {records : List Record}

theorem mem_uris_objects {table uri : String} {condition : Condition} :
    uri ∈ (objects table condition).uris patterns records ↔
      condition.Selects patterns records uri := by
  simp only [uris, cut, objects, matching, List.mem_eraseDups, List.mem_map, List.mem_filter,
    ite_true, Condition.Selects, Bool.false_eq_true, ite_false]
  constructor
  · intro selected
    obtain ⟨record, ⟨member, holds⟩, same⟩ := selected
    exact ⟨record, member, same, holds⟩
  · intro selected
    obtain ⟨record, member, same, holds⟩ := selected
    exact ⟨record, ⟨member, holds⟩, same⟩

theorem mem_uris_everyObject {table uri : String} :
    uri ∈ (everyObject table).uris patterns records ↔ ∃ record ∈ records, record.uri = uri := by
  simp [uris, cut, everyObject, matching]

/-- A probe comes back empty only if no object has a row that satisfies its condition. -/
theorem uris_oneRow_eq_nil {table : String} {condition : Condition} :
    (oneRow table condition).uris patterns records = [] ↔
      ∀ uri, ¬ condition.Selects patterns records uri := by
  have taken : (oneRow table condition).uris patterns records =
      ((records.filter fun record => condition.holds patterns records record).map (·.uri)).take 1 :=
    rfl
  rw [taken]
  simp only [List.take_eq_nil_iff, List.map_eq_nil_iff, List.filter_eq_nil_iff, Nat.one_ne_zero,
    false_or]
  constructor
  · intro none uri selected
    obtain ⟨record, member, -, holds⟩ := selected
    exact none record member holds
  · intro none record member holds
    exact none record.uri ⟨record, member, rfl, holds⟩

end Select

end GraphSegments
