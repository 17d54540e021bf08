import GraphSegments.Proofs.Database.Records

/-!
Rows as the parameters that a statement binds, and what is read where a database gives the bound
parameters back. Every column is looked up by its name and read at the type of its kind; the first
value column that is filled gives the value and whether it is one of several.
-/

namespace GraphSegments
open Results

/-- A number that its text reads back as. -/
def Double.IsReadable (x : Double) : Prop := ofText? x.text = some x

instance (x : Double) : Decidable x.IsReadable := inferInstanceAs (Decidable (_ = _))

/-- A value whose numbers read back where it is bound as a text. -/
def Value.IsReadable : Value → Prop
  | geolocation point => point.latitude.IsReadable ∧ point.longitude.IsReadable
  | _ => True

instance (value : Value) : Decidable value.IsReadable := by
  unfold Value.IsReadable
  split <;> infer_instance

/-- The text of a point reads as the point if its coordinates read back. -/
theorem GeoLocation.read_text {point : GeoLocation} (first : point.latitude.IsReadable)
    (second : point.longitude.IsReadable) : read point.text = .ok point := by
  have coordinate {x : Double} (readable : x.IsReadable) :
      coordinate x.text.toList = .ok x := by
    rw [GeoLocation.coordinate, String.ofList_toList, readable]
  rw [read, coordinates?_text]
  simp only [coordinate first, coordinate second]
  rfl

namespace Param

/-- Whether a parameter is the absent value of its type. -/
def isAbsent : Param → Bool
  | bool value => value.isNone
  | i16 value | i32 value | i64 value => value.isNone
  | u64 value => value.isNone
  | f32 value => value.isNone
  | f64 value => value.isNone
  | text value => value.isNone

/-- The value of a kind that is bound as a parameter, if there is one. -/
def value? : ValueKind → Param → Except Error (Option Value)
  | .boolean, bool truth => .ok (truth.map .boolean)
  | .date, i64 n => .ok (n.map fun n => .date (.ofInt n))
  | .double, f64 x => .ok (x.map .double)
  | .float, f32 x => .ok (x.map .float)
  | .geolocation, text none => .ok none
  | .geolocation, text (some raw) => do return some (.geolocation (← GeoLocation.read raw))
  | .integer, i32 n => .ok (n.map fun n => .integer (.ofInt n))
  | .long, i64 n => .ok (n.map fun n => .long (.ofInt n))
  | .other, text s => .ok (s.map .other)
  | .string, text s => .ok (s.map .string)
  | .truth, i16 none => .ok none
  | .truth, i16 (some code) =>
    match Truth.ofCode? code with
    | some truth => .ok (some (.truth truth))
    | none => .error (.integrity (.truthCode code))
  | .uri, text s => .ok (s.map .uri)
  | _, _ => .error .storage

theorem isAbsent_absent (kind : ValueKind) : (absent kind).isAbsent = true := by
  cases kind <;> rfl

theorem isAbsent_ofValue (value : Value) : (ofValue value).isAbsent = false := by
  cases value <;> rfl

theorem value?_absent (kind : ValueKind) : value? kind (absent kind) = .ok none := by
  cases kind <;> rfl

/-- A value that is bound is read at its kind. -/
theorem value?_ofValue {value : Value} (readable : value.IsReadable) :
    value? value.kind (ofValue value) = .ok (some value) := by
  cases value with
  | geolocation point =>
    simp only [ofValue, Value.kind, value?, GeoLocation.read_text readable.1 readable.2]
    rfl
  | truth truth =>
    simp only [ofValue, Value.kind, value?, Truth.ofCode?_code]
  | date n | long n => simp [ofValue, Value.kind, value?]
  | integer n => simp [ofValue, Value.kind, value?]
  | _ => rfl

end Param

namespace Column

/-- Whether a column is for values. -/
def isValue : Column → Bool
  | value _ _ => true
  | _ => false

theorem mem_valueColumns (kind : ValueKind) (multi : Bool) : (kind, multi) ∈ valueColumns := by
  cases kind <;> cases multi <;> decide

theorem label_injective : Function.Injective label := by
  have distinct : ∀ first ∈ all, ∀ second ∈ all, first.label = second.label → first = second := by
    decide +kernel
  exact fun first second => distinct first (mem_all first) second (mem_all second)

/-- What a row of parameters has in a column, which is looked up by its name. -/
def fetch (values : List Param) (column : Column) : Except Error Param :=
  match ((all.map label).zip values).lookup column.label with
  | some param => .ok param
  | none => .error .storage

theorem fetch_map (given : Column → Param) (column : Column) :
    fetch (all.map given) column = .ok (given column) := by
  have found {columns : List Column} (listed : column ∈ columns) :
      ((columns.map label).zip (columns.map given)).lookup column.label = some (given column) := by
    induction columns with
    | nil => exact absurd listed List.not_mem_nil
    | cons first rest ih =>
      rw [List.map_cons, List.map_cons, List.zip_cons_cons, List.lookup_cons]
      split
      next same =>
        rw [label_injective (beq_iff_eq.1 same)]
      next other =>
        refine ih ((List.mem_cons.1 listed).resolve_left fun same => ?_)
        simp [same] at other
  rw [fetch, found (mem_all column)]

end Column

namespace Row

section Reading

variable (get : Column → Except Error Param)

/-- The value in the first filled one of some value columns. -/
def firstFilled : List (ValueKind × Bool) → Except Error (Value × Bool)
  | [] => .error (.integrity .emptyRow)
  | (kind, multi) :: rest => do
    match ← Param.value? kind (← get (.value kind multi)) with
    | some value => return (value, multi)
    | none => firstFilled rest

def textOf (column : Column) : Except Error (Option String) := do
  match ← get column with
  | .text s => return s
  | _ => .error .storage

def requiredTextOf (column : Column) : Except Error String := do
  match ← textOf get column with
  | some s => return s
  | none => .error .storage

def truthOf (column : Column) : Except Error Bool := do
  match ← get column with
  | .bool (some truth) => return truth
  | _ => .error .storage

def instantOf (column : Column) : Except Error (Option Int64) := do
  match ← get column with
  | .i64 n => return n.map Int64.ofInt
  | _ => .error .storage

/-- Reads a row from what its columns give. -/
def read (withFullText : Bool) : Except Error Row := do
  let (value, multi) ← firstFilled get Column.valueColumns
  let fullText ← if withFullText then textOf get .fullText else .ok none
  let uri ← requiredTextOf get .uri
  let name ← requiredTextOf get .name
  let vitaltype ← requiredTextOf get .vitaltype
  let external ← truthOf get .external
  let tstamp ← instantOf get .tstamp
  let channel ← textOf get .channel
  return ⟨uri, name, vitaltype, external, tstamp, channel, value, multi, fullText⟩

end Reading

end Row

/-- What a column of a kind is read as. -/
def Datum.param (kind : ValueKind) (datum : Datum) : Except Error Param :=
  match kind with
  | .boolean => do return .bool ((← Record.optional (Record.whole 64) datum).map (· != 0))
  | .date | .long => do return .i64 (← Record.optional (Record.whole 64) datum)
  | .double => do return .f64 (← Record.optional Record.double datum)
  | .float => do return .f32 ((← Record.optional Record.double datum).map (·.toSingle))
  | .geolocation | .other | .string | .uri => do
    return .text (← Record.optional Record.text datum)
  | .integer => do return .i32 (← Record.optional (Record.whole 32) datum)
  | .truth => do return .i16 (← Record.optional (Record.whole 16) datum)

namespace Record

/-- What a column of a record is read as. -/
def get (record : Record) : Column → Except Error Param
  | .uri => .ok (.ofText record.uri)
  | .name => .ok (.ofText record.name)
  | .vitaltype => .ok (.ofText record.vitaltype)
  | .external => do return .bool (some ((← whole 64 record.external) != 0))
  | .tstamp => do return .i64 (← optional (whole 64) record.tstamp)
  | .channel => do return .text (← optional text record.channel)
  | .fullText => do return .text (← optional text record.fullText)
  | .value kind multi => (record.value kind multi).param kind

/-- A column is read at the type of its kind first, and then as a value. -/
theorem value?_param (kind : ValueKind) (datum : Datum) :
    datum.param kind >>= Param.value? kind = optional (readKind kind) datum := by
  rcases eq_or_ne datum .null with rfl | filled
  · cases kind <;> rfl
  · rw [optional_of_ne_null filled]
    cases kind <;> simp only [Datum.param, optional_of_ne_null filled, readKind]
    case boolean | date | long => cases whole 64 datum <;> rfl
    case double | float => cases double datum <;> rfl
    case other | string | uri => cases text datum <;> rfl
    case integer => cases whole 32 datum <;> rfl
    case geolocation =>
      cases text datum with
      | error error => rfl
      | ok raw =>
        simp only [map_ok, ok_bind, pure_bind, Param.value?]
        cases GeoLocation.read raw <;> rfl
    case truth =>
      cases whole 16 datum with
      | error error => rfl
      | ok code =>
        simp only [map_ok, ok_bind, pure_bind, Param.value?]
        cases Truth.ofCode? code <;> rfl

/-- The value of a record is read column by column. -/
theorem firstFilled_get (record : Record) (columns : List (ValueKind × Bool)) :
    Row.firstFilled record.get columns = record.firstValue columns := by
  induction columns with
  | nil => rfl
  | cons column rest ih =>
    obtain ⟨kind, multi⟩ := column
    rw [Row.firstFilled, firstValue, ← value?_param, ← ih, bind_assoc]
    rfl

/-- A record is read as a row by reading what its columns give. -/
theorem read_get (record : Record) (withFullText : Bool) :
    Row.read record.get withFullText = record.toRow withFullText := by
  have fullText : Row.textOf record.get .fullText = optional text record.fullText := by
    rw [Row.textOf, get]
    cases optional text record.fullText <;> rfl
  have external : Row.truthOf record.get .external = (· != 0) <$> whole 64 record.external := by
    rw [Row.truthOf, get]
    cases whole 64 record.external <;> rfl
  have tstamp : Row.instantOf record.get .tstamp =
      Option.map Int64.ofInt <$> optional (whole 64) record.tstamp := by
    rw [Row.instantOf, get]
    cases optional (whole 64) record.tstamp <;> rfl
  have channel : Row.textOf record.get .channel = optional text record.channel := by
    rw [Row.textOf, get]
    cases optional text record.channel <;> rfl
  have required : Row.requiredTextOf record.get .uri = .ok record.uri ∧
      Row.requiredTextOf record.get .name = .ok record.name ∧
      Row.requiredTextOf record.get .vitaltype = .ok record.vitaltype := ⟨rfl, rfl, rfl⟩
  simp only [Row.read, toRow, firstFilled_get, fullText, external, tstamp, channel, required,
    ok_bind, bind_map_left]

end Record

namespace Row

variable {row : Row}

/-- The value of a row is found in its own column, as all others are empty. -/
theorem firstFilled_param (readable : row.value.IsReadable) {columns : List (ValueKind × Bool)}
    (own : (row.value.kind, row.multi) ∈ columns) :
    firstFilled (fun column => .ok (row.param column)) columns = .ok (row.value, row.multi) := by
  induction columns with
  | nil => exact absurd own List.not_mem_nil
  | cons column rest ih =>
    obtain ⟨kind, multi⟩ := column
    rw [firstFilled, ok_bind, param]
    by_cases same : kind = row.value.kind ∧ multi = row.multi
    · obtain ⟨rfl, rfl⟩ := same
      rw [if_pos ⟨rfl, rfl⟩, Param.value?_ofValue readable]
      rfl
    · have later : (row.value.kind, row.multi) ∈ rest :=
        (List.mem_cons.1 own).resolve_left fun here =>
          same ⟨(Prod.mk.inj here).1.symm, (Prod.mk.inj here).2.symm⟩
      rw [if_neg same, Param.value?_absent]
      exact ih later

/-- A row is read from its parameters as it was, its full text as far as it is asked for. -/
theorem read_param (readable : row.value.IsReadable) (withFullText : Bool) :
    read (fun column => .ok (row.param column)) withFullText =
      .ok { row with fullText := if withFullText then row.fullText else none } := by
  have instant : (row.tstamp.map (·.toInt)).map Int64.ofInt = row.tstamp := by
    cases row.tstamp <;> simp
  rw [read, firstFilled_param readable (Column.mem_valueColumns _ _)]
  cases withFullText <;>
    simp [textOf, requiredTextOf, truthOf, instantOf, param, Param.ofText, instant]

/-- Among the value columns a row fills the one of its kind and cardinality, and no other. -/
theorem filter_insertValues (row : Row) :
    (Column.all.zip row.insertValues).filter (fun bound => bound.1.isValue && !bound.2.isAbsent) =
      [(.value row.value.kind row.multi, .ofValue row.value)] := by
  have own (column : Column) : (column.isValue && !(row.param column).isAbsent) =
      (column == .value row.value.kind row.multi) := by
    cases column with
    | value kind multi =>
      by_cases same : kind = row.value.kind ∧ multi = row.multi
      · simp [Column.isValue, param, same, Param.isAbsent_ofValue]
      · rw [Column.isValue, param, if_neg same, Param.isAbsent_absent]
        simpa using same
    | _ => rfl
  have once (kind : ValueKind) (multi : Bool) :
      Column.all.filter (· == .value kind multi) = [.value kind multi] := by
    cases kind <;> cases multi <;> decide
  rw [insertValues, ← List.map_prod_left_eq_zip, List.filter_map]
  simp only [Function.comp_def, own, once, List.map_singleton]
  simp [param]

/-- A row survives its columns. -/
theorem read_insertValues (readable : row.value.IsReadable) :
    (Column.all.filter Column.isValue).length = 22 ∧ row.insertValues.length = 29 ∧
      (Column.all.zip row.insertValues).filter (fun bound =>
        bound.1.isValue && !bound.2.isAbsent) =
          [(.value row.value.kind row.multi, .ofValue row.value)] ∧
      firstFilled (Column.fetch row.insertValues) Column.valueColumns =
        .ok (row.value, row.multi) ∧
      [.uri, .name, .vitaltype, .external, .tstamp, .channel, .fullText].map
          (Column.fetch row.insertValues) =
        [.ok (.text (some row.uri)), .ok (.text (some row.name)), .ok (.text (some row.vitaltype)),
          .ok (.bool (some row.external)), .ok (.i64 (row.tstamp.map (·.toInt))),
          .ok (.text row.channel), .ok (.text row.fullText)] ∧
      (∀ withFullText, read (Column.fetch row.insertValues) withFullText =
        .ok { row with fullText := if withFullText then row.fullText else none }) ∧
      (∀ record : Record, record.get = Column.fetch row.insertValues → ∀ withFullText,
        record.toRow withFullText =
          .ok { row with fullText := if withFullText then row.fullText else none }) ∧
      ∀ other : Row, other.value.IsReadable → other.insertValues = row.insertValues →
        other = row := by
  have fetched (row : Row) : Column.fetch row.insertValues = fun column => .ok (row.param column) :=
    funext fun column => Column.fetch_map row.param column
  refine ⟨by decide, ?_, filter_insertValues row, ?_, ?_, ?_, ?_, ?_⟩
  · rw [insertValues, List.length_map, Column.length_all]
  · rw [fetched]
    exact firstFilled_param readable (Column.mem_valueColumns _ _)
  · rw [fetched]
    rfl
  · rw [fetched]
    exact read_param readable
  · intro record given withFullText
    rw [← Record.read_get, given, fetched]
    exact read_param readable withFullText
  · intro other readable' same
    have first := read_param readable true
    have second := read_param readable' true
    rw [← fetched] at first second
    rw [same, first] at second
    exact (Except.ok.inj second).symm

/-- A row of a point, as SQLite gives it back. -/
theorem read_insertValues_point :
    let point : GeoLocation :=
      ⟨(Double.ofText? "52.5").getD .zero, (Double.ofText? "-0.1").getD .zero⟩
    let row : Row := ⟨"urn:a", "urn:p", "urn:C", true, some 7, none, .geolocation point, true, none⟩
    let other : Row := { row with multi := false }
    row.value.IsReadable ∧ Param.ofValue row.value = .text (some "POINT(-0.1 52.5)") ∧
      read (Column.fetch row.insertValues) true = .ok row ∧
      (Record.ofRow row).get = Column.fetch row.insertValues ∧
      (Record.ofRow row).toRow true = .ok row ∧ other.insertValues ≠ row.insertValues := by
  intro point row other
  have readable : row.value.IsReadable := by decide +kernel
  have back : (Record.ofRow row).get = Column.fetch row.insertValues := by
    funext column
    rw [insertValues, Column.fetch_map]
    cases column with
    | value kind multi => cases kind <;> cases multi <;> rfl
    | _ => rfl
  obtain ⟨-, -, -, -, -, read, record, injective⟩ := read_insertValues readable
  refine ⟨readable, by decide +kernel, read true, back, record _ back true, fun same => ?_⟩
  exact absurd (injective other readable same) (by decide)

end Row

end GraphSegments
