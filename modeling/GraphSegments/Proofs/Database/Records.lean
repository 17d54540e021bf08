import GraphSegments.Proofs.Results
import GraphSegments.Proofs.Search.Columns
import GraphSegments.Proofs.Table.Substitution
import GraphSegments.Proofs.Text.Points

/-!
What a record gives back of the row that it was made of: all of it, with a number as its column
keeps it. Only a NaN is kept by no column.
-/

namespace GraphSegments
open Results

namespace Record

theorem whole_int {bits : Nat} {n : Int} (low : -Nat.pow 2 (bits - 1) ≤ n)
    (high : n < Nat.pow 2 (bits - 1)) : whole bits (.int n) = .ok n :=
  if_pos ⟨low, high⟩

theorem whole_int64 (n : Int64) : whole 64 (.int n.toInt) = .ok n.toInt :=
  whole_int n.le_toInt n.toInt_lt

theorem optional_of_ne_null {α : Type} {read : Datum → Except Error α} {datum : Datum}
    (filled : datum ≠ .null) : optional read datum = some <$> read datum := by
  cases datum with
  | null => exact absurd rfl filled
  | _ => rfl

/-- A value that a column is read as is of the kind of the column. -/
theorem kind_of_readKind {kind : ValueKind} {datum : Datum} {value : Value}
    (read : readKind kind datum = .ok value) : value.kind = kind := by
  cases kind <;> obtain ⟨_, -, read⟩ := bind_eq_ok.1 read
  case geolocation =>
    obtain ⟨_, -, read⟩ := bind_eq_ok.1 read
    exact Except.ok.inj read ▸ rfl
  case truth =>
    split at read
    next => exact Except.ok.inj read ▸ rfl
    next => cases read
  all_goals exact Except.ok.inj read ▸ rfl

end Record

/-- A double stays a double in a column of doubles. -/
theorem Datum.exists_asReal (x : Double) : ∃ y, (Datum.real x).asReal = .real y := by
  have whole : (∃ n, (Datum.real x).asWhole = .int n) ∨ (Datum.real x).asWhole = .real x := by
    unfold asWhole
    dsimp only
    split
    next =>
      split
      next => exact .inl ⟨_, rfl⟩
      next => exact .inr rfl
    next => exact .inr rfl
  unfold asReal
  dsimp only
  rcases whole with ⟨n, whole⟩ | whole <;> rw [whole]
  · exact ⟨_, rfl⟩
  · exact ⟨_, rfl⟩

namespace Value

/-- Whether a value is a number that no column keeps. -/
def isNan : Value → Bool
  | double x => x.isNan
  | float x => x.toDouble.isNan
  | _ => false

/-- Every other value leaves something in its column that reads as a value. -/
theorem exists_readKind_datum {value : Value} (number : value.isNan = false) :
    value.datum ≠ .null ∧ ∃ kept, Record.readKind value.kind value.datum = .ok kept := by
  cases value with
  | boolean truth => cases truth <;> exact ⟨by decide, _, rfl⟩
  | date instant =>
    have datum : (date instant).datum = .int instant.toInt := rfl
    rw [datum]
    simp only [kind, Record.readKind, Record.whole_int64, ok_bind]
    exact ⟨by simp, _, rfl⟩
  | long instant =>
    have datum : (long instant).datum = .int instant.toInt := rfl
    rw [datum]
    simp only [kind, Record.readKind, Record.whole_int64, ok_bind]
    exact ⟨by simp, _, rfl⟩
  | double x =>
    have datum : (double x).datum = (Datum.real x).asReal := by
      simp only [isNan] at number
      simp [Value.datum, Param.ofValue, Datum.ofParam, number, Datum.store, Column.affinity, kind]
    obtain ⟨y, kept⟩ := Datum.exists_asReal x
    rw [datum, kept]
    exact ⟨by simp, _, rfl⟩
  | float x =>
    have datum : (float x).datum = (Datum.real x.toDouble).asReal := by
      simp only [isNan] at number
      simp [Value.datum, Param.ofValue, Datum.ofParam, number, Datum.store, Column.affinity, kind]
    obtain ⟨y, kept⟩ := Datum.exists_asReal x.toDouble
    rw [datum, kept]
    exact ⟨by simp, _, rfl⟩
  | geolocation point =>
    obtain ⟨same, read⟩ := point.exists_read_text
    have datum : (geolocation point).datum = .text point.text := rfl
    rw [datum]
    simp only [kind, Record.readKind, Record.text, ok_bind, read]
    exact ⟨by simp, _, rfl⟩
  | integer n =>
    have datum : (integer n).datum = .int n.toInt := rfl
    have whole : Record.whole 32 (.int n.toInt) = .ok n.toInt :=
      Record.whole_int n.le_toInt n.toInt_lt
    rw [datum]
    simp only [kind, Record.readKind, whole, ok_bind]
    exact ⟨by simp, _, rfl⟩
  | truth truth => cases truth <;> exact ⟨by decide, _, rfl⟩
  | other text | string text | uri text =>
    have filled : Datum.text text ≠ .null := by simp
    exact ⟨filled, _, rfl⟩

/-- A value as its column gives it back, if that keeps it. -/
def kept (value : Value) : Value :=
  (Record.readKind value.kind value.datum).toOption.getD value

theorem readKind_datum {value : Value} (number : value.isNan = false) :
    Record.readKind value.kind value.datum = .ok value.kept := by
  obtain ⟨-, kept, read⟩ := exists_readKind_datum number
  rw [Value.kept, read]
  rfl

theorem kind_kept (value : Value) : value.kept.kind = value.kind := by
  unfold kept
  cases read : Record.readKind value.kind value.datum with
  | error error => rfl
  | ok kept => exact Record.kind_of_readKind read

theorem text?_eq_none_iff {value : Value} :
    value.text? = none ↔ value.kind ∉ [ValueKind.other, .string, .uri] := by
  cases value <;> simp [text?, kind]

/-- Texts are kept as they are. -/
theorem text?_kept (value : Value) : value.kept.text? = value.text? := by
  cases held : value.text? with
  | none => rwa [text?_eq_none_iff, kind_kept, ← text?_eq_none_iff]
  | some text =>
    have same : value.kept = value := by
      cases value with
      | other text | string text | uri text => rfl
      | _ => cases held
    rw [same, held]

theorem isMarked_eq (value : Value) : Overflow.isMarked value =
    (value.text? == some Overflow.marker && value.kind != .uri) := by
  cases value <;> simp [Overflow.isMarked, text?, kind]

theorem isMarked_kept (value : Value) :
    Overflow.isMarked value.kept = Overflow.isMarked value := by
  rw [isMarked_eq, isMarked_eq, text?_kept, kind_kept]

end Value

/-- What is stored of a value, as its columns give it back. -/
def Value.storedKept (stored : Value × Option String) : Value × Option String :=
  (stored.1.kept, stored.2)

namespace Record

variable {row : Row} (number : row.value.isNan = false)
include number

/-- The value of a row is found in its own column, all others being empty. -/
theorem firstValue_ofRow {columns : List (ValueKind × Bool)}
    (own : (row.value.kind, row.multi) ∈ columns) :
    (ofRow row).firstValue columns = .ok (row.value.kept, row.multi) := by
  induction columns with
  | nil => exact absurd own List.not_mem_nil
  | cons column rest ih =>
    obtain ⟨kind, multi⟩ := column
    have cell : (ofRow row).value kind multi = _ := cell_value row kind multi
    rw [firstValue, cell]
    by_cases same : kind = row.value.kind ∧ multi = row.multi
    · obtain ⟨rfl, rfl⟩ := same
      rw [if_pos ⟨rfl, rfl⟩, optional_of_ne_null (Value.exists_readKind_datum number).1,
        Value.readKind_datum number]
      rfl
    · have later : (row.value.kind, row.multi) ∈ rest :=
        (List.mem_cons.1 own).resolve_left fun here =>
          same ⟨(Prod.mk.inj here).1.symm, (Prod.mk.inj here).2.symm⟩
      rw [if_neg same]
      exact ih later

/-- A record gives its row back. -/
theorem toRow_ofRow : (ofRow row).toRow true = .ok (row.withStored Value.storedKept) := by
  have own : (row.value.kind, row.multi) ∈ Column.valueColumns := by
    generalize row.value.kind = kind
    generalize row.multi = multi
    cases kind <;> cases multi <;> decide
  have fullText : optional text (ofRow row).fullText = .ok row.fullText := by
    simp only [ofRow, stored, Row.param]
    cases row.fullText <;> rfl
  have tstamp : optional (whole 64) (ofRow row).tstamp = .ok (row.tstamp.map (·.toInt)) := by
    have cell : (ofRow row).tstamp = _ := cell_tstamp row
    rw [cell]
    cases row.tstamp with
    | none => rfl
    | some instant => exact congrArg (some <$> ·) (whole_int64 instant)
  have channel : optional text (ofRow row).channel = .ok row.channel := by
    have cell : (ofRow row).channel = _ := cell_channel row
    rw [cell]
    cases row.channel <;> rfl
  have external : whole 64 (ofRow row).external = .ok (if row.external then 1 else 0) := by
    simp only [ofRow, stored, Row.param]
    cases row.external <;> rfl
  have truth : ((if row.external then 1 else 0 : Int) != 0) = row.external := by
    cases row.external <;> rfl
  have instant : (row.tstamp.map (·.toInt)).map Int64.ofInt = row.tstamp := by
    cases row.tstamp <;> simp
  rw [toRow, firstValue_ofRow number own]
  simp only [ok_bind, if_true, fullText, tstamp, channel, external, truth, instant]
  rfl

omit number in
theorem toRows_map_ofRow {rows : List Row} (numbers : ∀ row ∈ rows, row.value.isNan = false) :
    toRows true (rows.map ofRow) = .ok (rows.map (Row.withStored Value.storedKept)) := by
  induction rows with
  | nil => rfl
  | cons row rest ih =>
    obtain ⟨first, others⟩ := List.forall_mem_cons.1 numbers
    rw [List.map_cons, toRows, toRow_ofRow first, ok_bind, ih others]
    rfl

end Record

end GraphSegments
