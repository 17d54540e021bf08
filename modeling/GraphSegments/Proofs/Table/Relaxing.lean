import GraphSegments.Proofs.Table.Recovery

/-!
Reading less strictly. Enforcement decides only whether rows of another version, and properties
that are not registered, are refused or let through; whether broken data is ignored decides only
what becomes of an object that is broken. So an object that is read at all stays what it is when
the reader gets more lenient.
-/

namespace GraphSegments
open Results

namespace Enforcement

/-- How much is let through. -/
def leniency : Enforcement → Nat
  | .strict => 0
  | .tolerant => 1
  | .lenient => 2

theorem eq_lenient_of_le {more : Enforcement}
    (least : leniency .lenient ≤ more.leniency) : more = .lenient := by
  cases more with
  | strict | tolerant => simp [leniency] at least
  | lenient => rfl

theorem eq_strict_of_le {less : Enforcement} (most : less.leniency ≤ leniency .strict) :
    less = .strict := by
  cases less with
  | strict => rfl
  | tolerant | lenient => simp [leniency] at most

end Enforcement

/-- Options that let at least as much through as others. Nothing is asked of what they do with broken
objects, and in all else they are the same. -/
structure ReadOptions.Relaxes (relaxed options : ReadOptions) : Prop where
  enforcement : options.enforcement.leniency ≤ relaxed.enforcement.leniency
  external : relaxed.external = options.external
  overflow : relaxed.overflow = options.overflow

namespace ReadingScope

variable {registry : Registry} {uri : String} {grouped : Dictionary PropertyRows}

/-- A version that is accepted stays accepted, with the same namespaces. -/
theorem reconcile_of_leniency {less more : Enforcement} (higher : less.leniency ≤ more.leniency)
    {namespaces : Option (Dictionary String)}
    (reconciled : reconcile registry less uri grouped = .ok namespaces) :
    reconcile registry more uri grouped = .ok namespaces := by
  apply reconcile_eq_ok_iff.2
  refine (reconcile_eq_ok_iff.1 reconciled).imp_right ?_
  rintro ⟨ontologyUri, raw, persisted, named, dated, read, accepts, loaded⟩
  refine ⟨ontologyUri, raw, persisted, named, dated, read, fun strict => ?_, loaded⟩
  exact accepts (Enforcement.eq_strict_of_le (strict ▸ higher))

variable {relaxed options : ReadOptions}

/-- A property that reads is let through as well where more is. -/
theorem Reads.of_relaxes (relaxes : relaxed.Relaxes options)
    {namespaces : Option (Dictionary String)} {vitaltype storedName : String} {rows : PropertyRows}
    (reads : (ofClass registry options uri namespaces vitaltype).Reads storedName rows) :
    (ofClass registry relaxed uri namespaces vitaltype).Reads storedName rows := by
  apply reads.of_cardinality
  · simp only [cardinality?, ofClass, relaxes.external]
    rfl
  · intro lenient
    exact Enforcement.eq_lenient_of_le (lenient ▸ relaxes.enforcement)
  · show (∀ one ∈ rows.values, options.overflow.CanRead one) →
      ∀ one ∈ rows.values, relaxed.overflow.CanRead one
    rw [relaxes.overflow]
    exact id

/-- What properties are held as does not depend on how much else is let through. -/
theorem taken_of_relaxes (relaxes : relaxed.Relaxes options)
    (namespaces : Option (Dictionary String)) (vitaltype : String) :
    (ofClass registry relaxed uri namespaces vitaltype).taken =
      (ofClass registry options uri namespaces vitaltype).taken := by
  obtain ⟨enforcement, external, ignoreBroken, overflow⟩ := options
  obtain ⟨moreEnforcement, moreExternal, moreIgnoreBroken, moreOverflow⟩ := relaxed
  obtain rfl : moreExternal = external := relaxes.external
  obtain rfl : moreOverflow = overflow := relaxes.overflow
  rfl

/-- Grouped rows that are read as an object are read as the same object where more is let
through. -/
theorem readGrouped_of_relaxes (relaxes : relaxed.Relaxes options) {decoded : DecodedObject}
    (read : readGrouped registry options uri grouped = .ok (.ok decoded)) :
    readGrouped registry relaxed uri grouped = .ok (.ok decoded) := by
  obtain ⟨storedType, typeRows, namespaces, typed, listed, reconciled, registered, reads, taken⟩ :=
    readGrouped_eq_ok.1 read
  apply readGrouped_eq_ok.2
  refine ⟨storedType, typeRows, namespaces, typed, listed,
    reconcile_of_leniency relaxes.enforcement reconciled, registered,
    fun entry member => (reads entry member).of_relaxes relaxes, ?_⟩
  rwa [taken_of_relaxes relaxes]

end ReadingScope

namespace DecodedObject

variable {registry : Registry} {relaxed options : ReadOptions}

/-- An object that is read is read as the same object, with the same texts still to be fetched,
wherever more is let through: under tolerant instead of strict enforcement and under lenient
instead of either. Whether broken data is ignored or is an error makes no difference to it. -/
theorem ofRows_of_relaxes (relaxes : relaxed.Relaxes options) {rows : List Row}
    {decoded : DecodedObject} (read : ofRows registry options rows = .ok (some decoded)) :
    ofRows registry relaxed rows = .ok (some decoded) := by
  cases rows with
  | nil => cases read
  | cons first rest =>
    obtain ⟨grouped, made, whole⟩ := ofRows_eq_some.1 read
    exact ofRows_eq_some.2 ⟨grouped, made, ReadingScope.readGrouped_of_relaxes relaxes whole⟩

/-- A node read as strictly and as leniently as it can be. -/
theorem ofRows_of_relaxes_fully :
    let row (name : String) (multi : Bool) : Row :=
      ⟨"urn:a", name, Vocabulary.nodeClass, false, none, none, .uri Vocabulary.nodeClass, multi,
        none⟩
    let rows := [row Vocabulary.vitaltype false, row Vocabulary.types true]
    let options : ReadOptions := ⟨.strict, false, false, .inline⟩
    let relaxed : ReadOptions := ⟨.lenient, false, true, .inline⟩
    let node : GraphObject := ⟨"urn:a", Vocabulary.nodeClass, [Vocabulary.nodeClass], ∅⟩
    relaxed.Relaxes options ∧ ofRows .core options rows = .ok (some ⟨node, []⟩) ∧
      ofRows .core relaxed rows = .ok (some ⟨node, []⟩) := by
  intro row rows options relaxed node
  have relaxes : relaxed.Relaxes options := ⟨by decide, rfl, rfl⟩
  have read : ofRows .core options rows = .ok (some ⟨node, []⟩) :=
    eq_ok_of_toOption (by decide +kernel)
  exact ⟨relaxes, read, ofRows_of_relaxes relaxes read⟩

end DecodedObject

end GraphSegments
