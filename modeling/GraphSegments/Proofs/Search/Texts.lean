import GraphSegments.Proofs.Objects.Comparisons
import GraphSegments.Proofs.Search.Leaves

/-!
What the comparators of texts ask of a column, whatever the column holds: those that heed case look
at what it holds, those that ignore case at its lower case in ASCII.
-/

namespace GraphSegments
open Results

namespace Condition

variable {patterns : Patterns} {records : List Record} {record : Record} {column : Column}

section Textual

variable (textual : column.affinity = .text)
include textual

theorem operand_plain (text : String) : Term.operand (.ofText text) (.plain column) = .text text := by
  rw [Term.operand, textual]
  rfl

theorem compares_plain_eq (text : String) :
    compares record (.plain column) .eq (.ofText text) = true ↔ record.cell column = .text text := by
  rw [compares, operand_plain textual, Term.datum]
  cases record.cell column <;> simp [Datum.order, Comparison.accepts]

theorem compares_plain_ne (text : String) :
    compares record (.plain column) .ne (.ofText text) = true ↔
      record.cell column ≠ .null ∧ record.cell column ≠ .text text := by
  rw [compares, operand_plain textual, Term.datum]
  cases record.cell column <;> simp [Datum.order, Comparison.accepts]

theorem isAmong_plain (texts : List String) :
    isAmong record column (texts.map .ofText) = true ↔
      ∃ text ∈ texts, record.cell column = .text text := by
  simp [isAmong, compares_plain_eq textual]

end Textual

theorem compares_lowered_eq (text : String) :
    compares record (.lowered column) .eq (.ofText text) = true ↔
      ∃ held, (record.cell column).text? = some held ∧ Text.lowerAscii held = text := by
  have operand : Term.operand (.ofText text) (.lowered column) = .text text := rfl
  rw [compares, operand, Term.datum]
  cases (record.cell column).text? <;> simp [Datum.order, Comparison.accepts]

theorem contains_plain (part : String) :
    contains record (.plain column) (.ofText part) = true ↔
      ∃ held, (record.cell column).text? = some held ∧ part.toList <:+: held.toList := by
  have needle : (Datum.ofParam (.ofText part)).text? = some part := rfl
  rw [contains, needle, Term.datum]
  cases (record.cell column).text? <;> simp [Text.occursIn_iff]

theorem contains_lowered (part : String) :
    contains record (.lowered column) (.ofText part) = true ↔
      ∃ held, (record.cell column).text? = some held ∧
        part.toList <:+: (Text.lowerAscii held).toList := by
  have needle : (Datum.ofParam (.ofText part)).text? = some part := rfl
  rw [contains, needle, Term.datum]
  cases (record.cell column).text? <;> simp [Datum.text?, Text.occursIn_iff]

end Condition

namespace SegmentScope

variable {scope : SegmentScope} {property : String} {definition : PropertyDef}

section Single

variable (single : definition.multiValued = false)
include single

/-- Everything but containment in several values goes with a property of one value. -/
theorem fits_single {comparator : Comparator} (contains : comparator ≠ .contains)
    (excludes : comparator ≠ .notContains) :
    PropertyCriterion.checkCardinality property definition comparator = .ok () := by
  have alone : (comparator == .contains || comparator == .notContains) = false := by
    simp [contains, excludes]
  simp [PropertyCriterion.checkCardinality, single, alone]

theorem asks_eq (text : String) :
    scope.Asks property definition .eq (.single (.string text)) (· = .text text) where
  fits := fits_single single (by decide) (by decide)
  shaped := rfl
  supported := rfl
  takes := rfl
  tested := ⟨text, [], _, rfl, rfl, fun _ _ _ => Condition.compares_plain_eq rfl text⟩

theorem asks_ne (text : String) :
    scope.Asks property definition .ne (.single (.string text))
      fun datum => datum ≠ .null ∧ datum ≠ .text text where
  fits := fits_single single (by decide) (by decide)
  shaped := rfl
  supported := rfl
  takes := rfl
  tested := ⟨text, [], _, rfl, rfl, fun _ _ _ => Condition.compares_plain_ne rfl text⟩

theorem asks_oneOf {texts : List String} (named : texts ≠ []) :
    scope.Asks property definition .oneOf (.list (texts.map .string))
      fun datum => ∃ text ∈ texts, datum = .text text where
  fits := fits_single single (by decide) (by decide)
  shaped := by
    cases texts with
    | nil => exact absurd rfl named
    | cons first rest => rfl
  supported := rfl
  takes := rfl
  tested := by
    cases texts with
    | nil => exact absurd rfl named
    | cons first rest =>
      refine ⟨first, rest, _, rfl, rfl, fun patterns records record => ?_⟩
      rw [List.map_map]
      exact Condition.isAmong_plain rfl (first :: rest)

/-- In ASCII the column and in Unicode the operand are brought to lower case. -/
theorem asks_eqCaseInsensitive (text : String) :
    scope.Asks property definition .eqCaseInsensitive (.single (.string text))
      fun datum => ∃ held, datum.text? = some held ∧ Text.lowerAscii held = Text.lower text where
  fits := fits_single single (by decide) (by decide)
  shaped := rfl
  supported := rfl
  takes := rfl
  tested := ⟨text, [], _, rfl, rfl, fun _ _ _ => Condition.compares_lowered_eq (Text.lower text)⟩

end Single

section Textual

variable (textual : definition.kind = .string)
include textual

/-- A part is looked for in one text or in several. -/
theorem fits_part {comparator : Comparator} (looks : comparator = .containsCaseSensitive ∨
      comparator = .containsCaseInsensitive) :
    PropertyCriterion.checkCardinality property definition comparator = .ok () := by
  rcases looks with rfl | rfl <;>
    cases several : definition.multiValued <;>
      simp [PropertyCriterion.checkCardinality, several, textual]

theorem asks_containsCaseSensitive (part : String) :
    scope.Asks property definition .containsCaseSensitive (.single (.string part))
      fun datum => ∃ held, datum.text? = some held ∧ part.toList <:+: held.toList where
  fits := fits_part textual (.inl rfl)
  shaped := rfl
  supported := rfl
  takes := rfl
  tested := ⟨part, [], _, rfl, rfl, fun _ _ _ => Condition.contains_plain part⟩

theorem asks_containsCaseInsensitive (part : String) :
    scope.Asks property definition .containsCaseInsensitive (.single (.string part))
      fun datum => ∃ held, datum.text? = some held ∧
        (Text.lower part).toList <:+: (Text.lowerAscii held).toList where
  fits := fits_part textual (.inr rfl)
  shaped := rfl
  supported := rfl
  takes := rfl
  tested := ⟨part, [], _, rfl, rfl, fun _ _ _ => Condition.contains_lowered (Text.lower part)⟩

end Textual

end SegmentScope

end GraphSegments
