import GraphSegments.Proofs.Table.Deferral

/-!
Values put into their columns and read back. A text that is too long gives way to the marker, and
the full text brings it back. Nothing tells a text that is the marker itself from such a text.
-/

namespace GraphSegments
open Results

namespace Encoded

variable {value : Value} {text : String}

/-- Only texts are too long, and a text that is too long is not the marker. -/
theorem of_overflow (long : overflow? value = some text) :
    value = Overflow.ofText value.kind text ∧ text ≠ Overflow.marker := by
  have short : Overflow.marker.length ≤ Overflow.threshold := by decide
  cases value with
  | string other | other other =>
    simp only [overflow?, Option.ite_none_right_eq_some] at long
    obtain ⟨long, same⟩ := long
    obtain rfl := Option.some.inj same
    refine ⟨rfl, ?_⟩
    rintro rfl
    exact absurd long (Nat.not_lt.2 short)
  | _ => cases long

/-- A text that stays in its column is short enough, or a URI. -/
theorem length_le_of_overflow (short : overflow? value = none) (held : value.text? = some text)
    (plain : value.kind ≠ .uri) : text.length ≤ Overflow.threshold := by
  cases value with
  | string other | other other =>
    obtain rfl := Option.some.inj held
    simpa [overflow?] using short
  | uri other => exact absurd rfl plain
  | _ => cases held

theorem ofValue_of_overflow (long : overflow? value = some text) (multi : Bool) :
    ofValue value multi =
      ⟨.value value.kind multi, Overflow.ofText value.kind Overflow.marker, some text⟩ := by
  rw [ofValue, long]

theorem ofValue_of_short (short : overflow? value = none) (multi : Bool) :
    ofValue value multi = ⟨.value value.kind multi, value, none⟩ := by
  rw [ofValue, short]

theorem overflow?_other (long : Overflow.threshold < text.length) :
    overflow? (.other text) = some text :=
  if_pos long

end Encoded

namespace Overflow

variable (kind : ValueKind)

theorem isMarked_marker : isMarked (ofText kind marker) = true := by cases kind <;> rfl

theorem kind_ofText (first second : String) :
    (ofText kind first).kind = (ofText kind second).kind := by
  cases kind <;> rfl

/-- The marker is read as what the full text says. -/
theorem restore_marker (text : String) :
    restore (ofText kind marker) (some text) = .ok (ofText kind text) := by
  cases kind <;> rfl

end Overflow

namespace Decoded

variable {value : Value}

/-- What stands for a long text is read as that text. -/
theorem ofStored_marker {text : String} (same : value = Overflow.ofText value.kind text) :
    ofStored (Overflow.ofText value.kind Overflow.marker) (some text) .inline = .ok (.ready value) ∧
      ofStored (Overflow.ofText value.kind Overflow.marker) (some text) .deferred =
        .ok (.deferred value.kind) := by
  have kind : (Overflow.ofText value.kind Overflow.marker).kind = value.kind :=
    (Overflow.kind_ofText _ _ text).trans (congrArg Value.kind same).symm
  constructor
  · rw [ofStored, Overflow.restore_marker, ← same]
    rfl
  · rw [ofStored, Overflow.isMarked_marker, kind]
    rfl

/-- A value that is stored as it is reads as itself, unless it is the marker. -/
theorem ofStored_self (value : Value) :
    ofStored value none .inline =
        (if Overflow.isMarked value then .error (.integrity .missingFullText)
          else .ok (.ready value)) ∧
      ofStored value none .deferred =
        .ok (if Overflow.isMarked value then .deferred value.kind else .ready value) := by
  refine ⟨?_, rfl⟩
  rw [ofStored, Overflow.restore]
  cases Overflow.isMarked value <;> rfl

/-- A value is read back exactly if it is not the marker as a text: inline as it was, deferred as it
was or as the kind of a text that gives it. The marker itself is taken for a text that is kept
elsewhere. What is stored is no longer than the threshold, URIs apart. -/
theorem decoding_undoes_encoding_iff (value : Value) (multi : Bool) :
    let encoded := Encoded.ofValue value multi
    let inline := ofStored encoded.stored encoded.fullText .inline
    let deferred := ofStored encoded.stored encoded.fullText .deferred
    (inline = .ok (.ready value) ↔ Overflow.isMarked value = false) ∧
      (deferred = .ok (if encoded.fullText.isNone then .ready value else .deferred value.kind) ↔
        Overflow.isMarked value = false) ∧
      (∀ text ∈ encoded.fullText, Overflow.ofText value.kind text = value) ∧
      (Overflow.isMarked value = true → inline = .error (.integrity .missingFullText) ∧
        deferred = .ok (.deferred value.kind)) ∧
      ∀ text ∈ encoded.stored.text?, value.kind ≠ .uri → text.length ≤ Overflow.threshold := by
  intro encoded inline deferred
  cases long : Encoded.overflow? value with
  | some text =>
    obtain ⟨same, plain⟩ := Encoded.of_overflow long
    obtain ⟨read, later⟩ := ofStored_marker same
    have unmarked : Overflow.isMarked value = false :=
      same ▸ ReadingScope.isMarked_ofText value.kind plain
    have made : encoded = _ := Encoded.ofValue_of_overflow long multi
    have short : ∀ text ∈ (Overflow.ofText value.kind Overflow.marker).text?,
        text.length ≤ Overflow.threshold := by
      cases value.kind <;> decide
    simp only [inline, deferred, made, read, later, unmarked]
    exact ⟨by simp, by simp, fun _ full => Option.some.inj full ▸ same.symm, by simp,
      fun text held _ => short text held⟩
  | none =>
    obtain ⟨read, later⟩ := ofStored_self value
    have made : encoded = _ := Encoded.ofValue_of_short long multi
    simp only [inline, deferred, made, read, later]
    refine ⟨?_, ?_, by simp, ?_, fun text held plain =>
      Encoded.length_le_of_overflow long held plain⟩
    · cases Overflow.isMarked value <;> simp
    · cases Overflow.isMarked value <;> simp
    · intro marked
      simp [marked]

/-- A text that is too long for its column. -/
theorem decoding_undoes_encoding_iff_long :
    let text := String.ofList (List.replicate 5001 'a')
    let encoded := Encoded.ofValue (.other text) true
    encoded = ⟨.value .other true, .other Overflow.marker, some text⟩ ∧
      ofStored encoded.stored encoded.fullText .inline = .ok (.ready (.other text)) ∧
      ofStored encoded.stored encoded.fullText .deferred = .ok (.deferred .other) ∧
      Overflow.ofText .other text = .other text ∧
      Overflow.marker.length ≤ Overflow.threshold := by
  intro text encoded
  have long : Encoded.overflow? (.other text) = some text := by
    apply Encoded.overflow?_other
    rw [String.length_ofList, List.length_replicate]
    decide
  have made : encoded = ⟨.value .other true, .other Overflow.marker, some text⟩ :=
    Encoded.ofValue_of_overflow long true
  have unmarked : Overflow.isMarked (.other text) = false :=
    ReadingScope.isMarked_ofText .other (Encoded.of_overflow long).2
  obtain ⟨inline, deferred, restored, -, short⟩ := decoding_undoes_encoding_iff (.other text) true
  have full : encoded.fullText = some text := by rw [made]
  refine ⟨made, inline.2 unmarked, (deferred.2 unmarked).trans ?_, restored text full, ?_⟩
  · have moved : encoded.fullText.isNone = false := congrArg Option.isNone full
    exact congrArg Except.ok (if_neg (Bool.eq_false_iff.1 moved))
  · exact short Overflow.marker (congrArg (fun encoded => encoded.stored.text?) made) (by decide)

/-- A text that is the marker is stored as it is, and then taken for a text that is kept elsewhere
but is not there. -/
theorem marker_is_not_read_back :
    let value := Value.string Overflow.marker
    let encoded := Encoded.ofValue value false
    encoded = ⟨.value .string false, value, none⟩ ∧
      ofStored encoded.stored encoded.fullText .inline = .error (.integrity .missingFullText) ∧
      ofStored encoded.stored encoded.fullText .deferred = .ok (.deferred .string) := by
  decide

end Decoded

end GraphSegments
