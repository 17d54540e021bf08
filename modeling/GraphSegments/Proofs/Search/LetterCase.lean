import GraphSegments.Proofs.Search.Texts
import GraphSegments.Table.Writing

/-!
Searches that ignore case. The operand of such a search gets the lower case of all of Unicode and
the column that of ASCII. Where the two agree on the operand, ignoring case finds all that a search
that heeds case finds, on every table; where they differ there is a table on which it misses an
object.
-/

namespace GraphSegments
open Results

namespace Text

theorem lowerSimple_ascii {c : Char} (ascii : c.toNat < 128) : lowerSimple c = c.toLower := by
  rw [lowerSimple, if_pos ascii]

/-- Texts of ASCII alone have one lower case. -/
theorem lower_ascii {text : String} (ascii : ∀ c ∈ text.toList, c.toNat < 128) :
    lower text = lowerAscii text := by
  have simple (before chars : List Char) (ascii : ∀ c ∈ chars, c.toNat < 128) :
      lowerAfter before chars = chars.map Char.toLower := by
    induction chars generalizing before with
    | nil => rfl
    | cons c rest ih =>
      obtain ⟨low, ascii⟩ := List.forall_mem_cons.1 ascii
      have sigma : c ≠ capitalSigma := fun same => absurd (same ▸ low) (by decide)
      have dotted : c ≠ capitalDottedI := fun same => absurd (same ▸ low) (by decide)
      rw [lowerAfter, if_neg sigma, if_neg dotted, lowerSimple_ascii low, ih _ ascii]
      rfl
  rw [lower, simple _ _ ascii, lowerAscii]

/-- No character is lost in lower case. -/
theorem length_le_lower (text : String) : text.toList.length ≤ (lower text).toList.length := by
  have longer (before chars : List Char) : chars.length ≤ (lowerAfter before chars).length := by
    induction chars generalizing before with
    | nil => exact Nat.zero_le _
    | cons c rest ih =>
      have others := ih (c :: before)
      simp only [lowerAfter, List.length_append, List.length_cons]
      split
      · simp only [List.length_singleton]
        omega
      · split
        · simp only [List.length_cons, List.length_nil]
          omega
        · simp only [List.length_singleton]
          omega
  rw [lower, String.toList_ofList]
  exact longer [] text.toList

/-- What occurs in a text occurs in it in lower case. -/
theorem lowerAscii_infix {part text : String} (occurs : part.toList <:+: text.toList) :
    (lowerAscii part).toList <:+: (lowerAscii text).toList := by
  rw [lowerAscii, lowerAscii, String.toList_ofList, String.toList_ofList]
  exact occurs.map _

/-- The lower case of a text occurs in its lower case in ASCII only if the two are the same. -/
theorem lower_eq_of_infix {text : String}
    (occurs : (lower text).toList <:+: (lowerAscii text).toList) : lower text = lowerAscii text := by
  refine String.toList_inj.1 (occurs.eq_of_length_le ?_)
  calc (lowerAscii text).toList.length = text.toList.length := by
        rw [lowerAscii, String.toList_ofList, List.length_map]
    _ ≤ (lower text).toList.length := length_le_lower text

end Text

namespace SegmentScope

variable {scope : SegmentScope} {property : String} {definition : PropertyDef}

/-- On every table, one comparator finds with a text all that another one finds with it. -/
def Widens (scope : SegmentScope) (mode : ExecutionMode) (property text : String)
    (strict loose : Comparator) : Prop :=
  ∀ (database : Database) (records : List Record),
    database.recordsOf scope.table = .ok records → ∃ found wider : UriSet,
      scope.objectsBy database mode property strict (.single (.string text)) = .ok found ∧
      scope.objectsBy database mode property loose (.single (.string text)) = .ok wider ∧
      ∀ uri ∈ found, uri ∈ wider

/-- A row that holds nothing but a text of a property. -/
def textRow (property : String) (definition : PropertyDef) (text : String) : Row :=
  ⟨"urn:row", versionless property, Vocabulary.nodeClass, false, none, none, .string text,
    definition.multiValued, none⟩

theorem cell_textRow (property : String) (definition : PropertyDef) (text : String) :
    (Record.ofRow (textRow property definition text)).cell
      (.value .string definition.multiValued) = .text text := by
  rw [Record.cell_value, if_pos ⟨rfl, rfl⟩]
  rfl

variable (textual : scope.IsTextual property definition) {strict loose : Comparator} {text : String}
  {passes passesLoosely : Datum → Prop}
  (asks : scope.Asks property definition strict (.single (.string text)) passes)
  (asksLoosely : scope.Asks property definition loose (.single (.string text)) passesLoosely)
  (mode : ExecutionMode)
include textual asks asksLoosely

/-- A comparator that passes all that another one passes finds all that it finds. -/
theorem IsTextual.widens (lenient : ∀ datum, passes datum → passesLoosely datum) :
    scope.Widens mode property text strict loose := by
  intro database records present
  obtain ⟨found, ran, finds⟩ := textual.exists_objectsBy present mode asks
  obtain ⟨wider, ranToo, findsToo⟩ := textual.exists_objectsBy present mode asksLoosely
  refine ⟨found, wider, ran, ranToo, fun uri member => (findsToo uri).2 ?_⟩
  obtain ⟨record, listed, own, named, passed⟩ := (finds uri).1 member
  exact ⟨record, listed, own, named, lenient _ passed⟩

/-- If it finds all on every table, it passes what the other one passes in a table of one row. -/
theorem IsTextual.passes_of_widens (widens : scope.Widens mode property text strict loose)
    (held : String) (passed : passes (.text held)) : passesLoosely (.text held) := by
  let record := Record.ofRow (textRow property definition held)
  have present : (Database.ofTable scope.table [record]).recordsOf scope.table = .ok [record] :=
    Database.recordsOf_ofTable _ _
  obtain ⟨found, wider, ran, ranToo, within⟩ := widens _ _ present
  obtain ⟨same, again, finds⟩ := textual.exists_objectsBy present mode asks
  obtain rfl := Except.ok.inj (again.symm.trans ran)
  obtain ⟨same, again, findsToo⟩ := textual.exists_objectsBy present mode asksLoosely
  obtain rfl := Except.ok.inj (again.symm.trans ranToo)
  have cell := cell_textRow property definition held
  have here := (finds "urn:row").2
    ⟨record, List.mem_singleton_self _, rfl, rfl, cell.symm ▸ passed⟩
  obtain ⟨other, listed, -, -, passedToo⟩ := (findsToo "urn:row").1 (within _ here)
  obtain rfl := List.mem_singleton.1 listed
  rwa [cell] at passedToo

end SegmentScope

/-- A search that ignores case finds all that the search that heeds it finds, on every table,
exactly if the lower case of the text in ASCII is its lower case in Unicode. -/
theorem SegmentScope.ignoring_case_widens_iff {scope : SegmentScope} {property : String}
    {definition : PropertyDef} (textual : scope.IsTextual property definition)
    (mode : ExecutionMode) (text : String) :
    (scope.Widens mode property text .containsCaseSensitive .containsCaseInsensitive ↔
        Text.lower text = Text.lowerAscii text) ∧
      (definition.multiValued = false →
        (scope.Widens mode property text .eq .eqCaseInsensitive ↔
          Text.lower text = Text.lowerAscii text)) ∧
      (definition.multiValued = true → ∀ database : Database,
        scope.objectsBy database mode property .eq (.single (.string text)) =
          .error (.query (.multiValuedComparator property))) := by
  refine ⟨⟨fun widens => ?_, fun same => ?_⟩, fun single => ⟨fun widens => ?_, fun same => ?_⟩,
    fun several database => ?_⟩
  · obtain ⟨held, read, occurs⟩ := textual.passes_of_widens
      (asks_containsCaseSensitive textual.kind text) (asks_containsCaseInsensitive textual.kind text)
      mode widens text ⟨text, rfl, List.infix_rfl⟩
    obtain rfl := Option.some.inj read
    exact Text.lower_eq_of_infix occurs
  · refine textual.widens (asks_containsCaseSensitive textual.kind text)
      (asks_containsCaseInsensitive textual.kind text) mode fun datum passed => ?_
    obtain ⟨held, read, occurs⟩ := passed
    exact ⟨held, read, same ▸ Text.lowerAscii_infix occurs⟩
  · obtain ⟨held, read, equal⟩ := textual.passes_of_widens (asks_eq single text)
      (asks_eqCaseInsensitive single text) mode widens text rfl
    obtain rfl := Option.some.inj read
    exact equal.symm
  · refine textual.widens (asks_eq single text) (asks_eqCaseInsensitive single text) mode
      fun datum passed => ⟨text, ?_, same.symm⟩
    rw [passed]
    rfl
  · have refused : PropertyCriterion.checkCardinality property definition .eq =
        .error (.query (.multiValuedComparator property)) := by
      simp [PropertyCriterion.checkCardinality, several]
    rw [textual.objectsBy_eq, refused]
    rfl

/-- Ignoring the case of an ASCII text finds what heeding it finds, and can find more. -/
theorem SegmentScope.ignoring_case_widens_iff_greeting :
    let registry := Registry.core.addProperty ⟨"urn:p", .string, false, none, Vocabulary.coreDomain⟩
    let scope : SegmentScope := ⟨⟨registry, .sqlite⟩, "notes", 0, true, true⟩
    let object := (GraphObject.ofClass "urn:a" Vocabulary.nodeClass).set "urn:p"
      (.single (.string "hello"))
    let rows := (object.toRows registry).toOption.getD []
    let database := Database.ofTable "notes" (rows.map .ofRow)
    let found := scope.objectsBy database .setAlgebra "urn:p"
    scope.Widens .setAlgebra "urn:p" "Hello" .containsCaseSensitive .containsCaseInsensitive ∧
      scope.Widens .setAlgebra "urn:p" "Hello" .eq .eqCaseInsensitive ∧
      found .eq (.single (.string "Hello")) = .ok [] ∧
      found .eqCaseInsensitive (.single (.string "Hello")) = .ok ["urn:a"] := by
  intro registry scope object rows database found
  have textual : scope.IsTextual "urn:p"
      ⟨"urn:p", .string, false, none, Vocabulary.coreDomain⟩ :=
    ⟨by decide, rfl, by decide, .inr (by decide)⟩
  have same : Text.lower "Hello" = Text.lowerAscii "Hello" := Text.lower_ascii (by simp)
  have ran : [Comparator.eq, .eqCaseInsensitive].map (fun comparator =>
      (found comparator (.single (.string "Hello"))).toOption) = [some [], some ["urn:a"]] := by
    decide +kernel
  simp only [List.map_cons, List.map_nil, List.cons.injEq, and_true] at ran
  obtain ⟨heeded, ignored⟩ := ran
  obtain ⟨part, whole, -⟩ := ignoring_case_widens_iff textual .setAlgebra "Hello"
  exact ⟨part.2 same, (whole rfl).2 same, eq_ok_of_toOption heeded, eq_ok_of_toOption ignored⟩

/-- An accented capital is lost: the column keeps it, and the operand does not. -/
theorem SegmentScope.accented_capital_is_lost :
    let registry := Registry.core.addProperty ⟨"urn:p", .string, false, none, Vocabulary.coreDomain⟩
    let scope : SegmentScope := ⟨⟨registry, .sqlite⟩, "notes", 0, false, false⟩
    let object := (GraphObject.ofClass "urn:a" Vocabulary.nodeClass).set "urn:p"
      (.single (.string "É"))
    let rows := (object.toRows registry).toOption.getD []
    let database := Database.ofTable "notes" (rows.map .ofRow)
    let found (comparator : Comparator) :=
      scope.objectsBy database .setAlgebra "urn:p" comparator (.single (.string "É"))
    found .eq = .ok ["urn:a"] ∧ found .eqCaseInsensitive = .ok [] ∧
      found .containsCaseSensitive = .ok ["urn:a"] ∧ found .containsCaseInsensitive = .ok [] := by
  intro registry scope object rows database found
  have ran : [Comparator.eq, .eqCaseInsensitive, .containsCaseSensitive,
      .containsCaseInsensitive].map (fun comparator => (found comparator).toOption) =
        [some ["urn:a"], some [], some ["urn:a"], some []] := by decide +kernel
  simp only [List.map_cons, List.map_nil, List.cons.injEq, and_true] at ran
  obtain ⟨same, ignored, within, ignoredWithin⟩ := ran
  exact ⟨eq_ok_of_toOption same, eq_ok_of_toOption ignored, eq_ok_of_toOption within,
    eq_ok_of_toOption ignoredWithin⟩

end GraphSegments
