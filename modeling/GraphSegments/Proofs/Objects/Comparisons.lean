import GraphSegments.Proofs.Objects.Satisfaction
import GraphSegments.Proofs.Search.Columns

/-!
Columns compare as values do. A value of a kind that its column holds as it is compares with an
operand of its kind exactly as the comparator says.
-/

namespace GraphSegments
open Results

theorem Text.occursIn_iff {needle text : List Char} :
    Text.occursIn needle text = true ↔ needle <:+: text := by
  induction text with
  | nil => simp [Text.occursIn]
  | cons c rest ih => simp [Text.occursIn, ih, List.infix_cons_iff]

/-- Kinds whose columns tell values apart: numbers are whole, and texts are compared as they are. -/
def ValueKind.isExact : ValueKind → Bool
  | .double | .float | .geolocation => false
  | _ => true

/-- URIs are given in the current vocabulary. -/
def Value.IsCurrent : Value → Prop
  | .uri text => versionless text = text
  | _ => True

theorem Value.operandParam_of_current {value : Value} (current : value.IsCurrent) :
    value.operandParam = .ofValue value := by
  cases value <;> first | rfl | exact congrArg Param.ofText current

/-- Exact values of a kind compare in their column, are the same if they compare as equal, and
compare as the whole numbers that they are. -/
theorem Value.order_datum {a b : Value} {kind : ValueKind} (exact : kind.isExact = true)
    (left : a.kind = kind) (right : b.kind = kind) (multi : Bool) :
    ∃ ordering,
      a.datum.order ((Datum.ofParam (.ofValue b)).operand (Column.value kind multi).affinity) =
        some ordering ∧
      (ordering = .eq ↔ a = b) ∧
      ∀ m n, a.whole? = some m → b.whole? = some n → ordering = compare m n := by
  subst left
  cases a with
  | double x | float x | geolocation x => exact absurd exact (by simp [kind, ValueKind.isExact])
  | boolean x =>
    obtain ⟨y, rfl⟩ : ∃ y, b = .boolean y := by cases b <;> simp_all [kind]
    refine ⟨_, rfl, ?_, by simp [whole?]⟩
    cases x <;> cases y <;> decide
  | truth x =>
    obtain ⟨y, rfl⟩ : ∃ y, b = .truth y := by cases b <;> simp_all [kind]
    refine ⟨_, rfl, ?_, by simp [whole?]⟩
    cases x <;> cases y <;> decide
  | date x =>
    obtain ⟨y, rfl⟩ : ∃ y, b = .date y := by cases b <;> simp_all [kind]
    exact ⟨_, rfl, by simp [Int64.toInt_inj], by simp [whole?]⟩
  | long x =>
    obtain ⟨y, rfl⟩ : ∃ y, b = .long y := by cases b <;> simp_all [kind]
    exact ⟨_, rfl, by simp [Int64.toInt_inj], by simp [whole?]⟩
  | integer x =>
    obtain ⟨y, rfl⟩ : ∃ y, b = .integer y := by cases b <;> simp_all [kind]
    exact ⟨_, rfl, by simp [Int32.toInt_inj], by simp [whole?]⟩
  | other x =>
    obtain ⟨y, rfl⟩ : ∃ y, b = .other y := by cases b <;> simp_all [kind]
    exact ⟨_, rfl, by simp, by simp [whole?]⟩
  | string x =>
    obtain ⟨y, rfl⟩ : ∃ y, b = .string y := by cases b <;> simp_all [kind]
    exact ⟨_, rfl, by simp, by simp [whole?]⟩
  | uri x =>
    obtain ⟨y, rfl⟩ : ∃ y, b = .uri y := by cases b <;> simp_all [kind]
    exact ⟨_, rfl, by simp, by simp [whole?]⟩

/-- Comparators that compare values as they are, without case and patterns. -/
def Comparator.isExact : Comparator → Bool
  | containsCaseInsensitive | eqCaseInsensitive | regexp | regexpCaseSensitive => false
  | _ => true

theorem Comparator.accepts_compare {comparator : Comparator} {comparison : Comparison}
    (bound : comparator.bound? = some comparison) (m n : Int) :
    comparison.accepts (compare m n) = comparator.relates m n := by
  rw [Bool.eq_iff_iff]
  cases comparator <;> simp only [bound?, Option.some.injEq, reduceCtorEq] at bound
  all_goals subst bound; simp only [Comparison.accepts, relates, bne_iff_ne, beq_iff_eq,
    decide_eq_true_eq, Int.compare_ne_lt, Int.compare_ne_gt, Int.compare_eq_lt, Int.compare_eq_gt]

/-- Bounds are supported for whole numbers only, among the exact kinds. -/
theorem Value.exists_whole {value : Value} {comparator : Comparator} {comparison : Comparison}
    (exact : value.kind.isExact = true) (bound : comparator.bound? = some comparison)
    (supported : value.kind.supports comparator = true) : ∃ n, value.whole? = some n := by
  cases value with
  | date n | long n | integer n => exact ⟨_, rfl⟩
  | double x | float x | geolocation x => exact absurd exact (by simp [kind, ValueKind.isExact])
  | boolean x | truth x | uri x | other x | string x =>
    cases comparator <;> simp_all [kind, ValueKind.supports, Comparator.bound?,
      Comparator.isMembership]

namespace Condition

section Values

variable {a b : Value} {kind : ValueKind} (exact : kind.isExact = true) (left : a.kind = kind)
  (right : b.kind = kind) (multi : Bool)
include exact left right

theorem passes_eq_iff :
    passes .eq (.ofValue b) (Column.value kind multi).affinity a.datum ↔ a = b := by
  obtain ⟨ordering, compared, same, -⟩ := Value.order_datum exact left right multi
  simp [passes, compared, Comparison.accepts, same]

theorem passes_ne_iff :
    passes .ne (.ofValue b) (Column.value kind multi).affinity a.datum ↔ a ≠ b := by
  obtain ⟨ordering, compared, same, -⟩ := Value.order_datum exact left right multi
  simp [passes, compared, Comparison.accepts, same]

theorem passes_bound_iff {comparator : Comparator} {comparison : Comparison}
    (bound : comparator.bound? = some comparison) (supported : kind.supports comparator = true) :
    passes comparison (.ofValue b) (Column.value kind multi).affinity a.datum ↔
      comparator.bounds a b = true := by
  obtain ⟨ordering, compared, -, numbers⟩ := Value.order_datum exact left right multi
  obtain ⟨m, first⟩ := Value.exists_whole (left ▸ exact) bound (left ▸ supported)
  obtain ⟨n, second⟩ := Value.exists_whole (right ▸ exact) bound (right ▸ supported)
  rw [passes, compared, numbers m n first second, Option.any_some,
    Comparator.accepts_compare bound, Comparator.bounds, first, second]

end Values

section Lists

variable {value : Value} {kind : ValueKind} (exact : kind.isExact = true)
  (same : value.kind = kind) (multi : Bool) {operands : List Value}
  (alike : ∀ operand ∈ operands, operand.kind = kind)
include exact same alike

/-- A value is found equal to one of some operands exactly if it is listed among them. -/
theorem exists_passes_eq_iff :
    (∃ param ∈ operands.map .ofValue,
      passes .eq param (Column.value kind multi).affinity value.datum) ↔ value ∈ operands := by
  constructor
  · intro found
    obtain ⟨_, listed, passed⟩ := found
    obtain ⟨operand, member, rfl⟩ := List.mem_map.1 listed
    exact (passes_eq_iff exact same (alike operand member) multi).1 passed ▸ member
  · intro member
    exact ⟨_, List.mem_map_of_mem member, (passes_eq_iff exact same same multi).2 rfl⟩

theorem forall_passes_ne_iff :
    (∀ param ∈ operands.map .ofValue,
      passes .ne param (Column.value kind multi).affinity value.datum) ↔ value ∉ operands := by
  rw [List.forall_mem_map]
  constructor
  · intro passed member
    exact (passes_ne_iff exact same same multi).1 (passed value member) rfl
  · intro absent operand member
    apply (passes_ne_iff exact same (alike operand member) multi).2
    intro equal
    exact absent (equal ▸ member)

end Lists

/-- Locating a text in a column of texts tells whether it occurs there. -/
theorem holds_locate {multi : Bool} {patterns : Patterns} {records : List Record}
    {record : Record} {text part : String}
    (cell : record.cell (.value .string multi) = (Value.string text).datum) :
    (locate (.plain (.value .string multi)) (Value.string part).operandParam).holds patterns
      records record = true ↔ part.toList <:+: text.toList := by
  rw [← Text.occursIn_iff]
  simp only [holds, contains, Term.datum, cell]
  rfl

end Condition

/-- A comparison of a column with operands of its kind says of the value in the column what the
comparator says. -/
theorem PropertyCriterion.holds_comparison {scope : LeafScope} {comparator : Comparator}
    {kind : ValueKind} {multi : Bool} {first : Value} {rest : List Value} {test : Condition}
    (compiled : comparison scope comparator (.value kind multi) first (first :: rest) = .ok test)
    (plain : comparator.isExact = true) (takes : comparator.takesValue = true)
    (single : comparator.takesList = false → rest = []) (exact : kind.isExact = true)
    (operands : ∀ operand ∈ first :: rest, operand.kind = kind ∧ operand.IsCurrent)
    (supported : comparator = .contains ∨ comparator = .notContains ∨
      kind.supports comparator = true)
    {patterns : Patterns} {records : List Record} {record : Record} {value : Value}
    (same : value.kind = kind) (cell : record.cell (.value kind multi) = value.datum) :
    test.holds patterns records record = true ↔
      comparator.accepts (first :: rest) value = true := by
  obtain ⟨here, current⟩ := operands first List.mem_cons_self
  have alike : ∀ operand ∈ first :: rest, operand.kind = kind :=
    fun operand member => (operands operand member).1
  have param := Value.operandParam_of_current current
  have params : (first :: rest).map (·.operandParam) = (first :: rest).map .ofValue :=
    List.map_congr_left fun operand member =>
      Value.operandParam_of_current (operands operand member).2
  cases comparator with
  | containsCaseInsensitive | eqCaseInsensitive | regexp | regexpCaseSensitive =>
    exact absurd plain (by simp [Comparator.isExact])
  | present | absent => exact absurd takes (by simp [Comparator.takesValue])
  | eq | contains | notContains =>
    obtain rfl := single rfl
    obtain rfl := Except.ok.inj compiled
    rw [(Condition.tests_compare .eq _).holds, cell, param, Condition.passes_eq_iff exact same here]
    simp [Comparator.accepts]
  | ne =>
    obtain rfl := single rfl
    obtain rfl := Except.ok.inj compiled
    rw [(Condition.tests_compare .ne _).holds, cell, param, Condition.passes_ne_iff exact same here]
    simp [Comparator.accepts]
  | ge | gt | le | lt =>
    obtain rfl := single rfl
    obtain rfl := Except.ok.inj compiled
    have supported := supported.resolve_left (by simp) |>.resolve_left (by simp)
    rw [(Condition.tests_compare _ _).holds, cell, param,
      Condition.passes_bound_iff exact same here multi rfl supported]
    simp [Comparator.accepts]
  | oneOf =>
    obtain rfl := Except.ok.inj compiled
    rw [params, (Condition.tests_oneOf _).holds, cell,
      Condition.exists_passes_eq_iff exact same multi alike]
    rw [Comparator.accepts, List.contains_iff_mem]
  | noneOf =>
    obtain rfl := Except.ok.inj compiled
    rw [params, (Condition.tests_noneOf _ (by simp)).holds, cell,
      Condition.forall_passes_ne_iff exact same multi alike]
    rw [Comparator.accepts, Bool.not_eq_true', ← Bool.not_eq_true, List.contains_iff_mem]
  | containsCaseSensitive =>
    obtain rfl := single rfl
    obtain rfl := Except.ok.inj compiled
    obtain rfl : kind = .string := by
      cases kind <;> simp_all [ValueKind.supports, Comparator.isMembership]
    obtain ⟨text, rfl⟩ : ∃ text, value = .string text := by cases value <;> simp_all [Value.kind]
    obtain ⟨part, rfl⟩ : ∃ part, first = .string part := by cases first <;> simp_all [Value.kind]
    rw [Condition.holds_locate cell]
    simp [Comparator.accepts, Value.includes, Value.text?]

end GraphSegments
