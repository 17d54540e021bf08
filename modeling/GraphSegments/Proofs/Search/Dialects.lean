import GraphSegments.Proofs.Search.Compiled
import GraphSegments.Proofs.Sql.Parameters

/-!
The same criteria in the four dialects. They become the same condition, except that SQLite has no
patterns, and so the same parameters, except that PostgreSQL's two dialects lose those of
comparisons within texts.
-/

namespace GraphSegments
open Results

/-- Comparators that match with a pattern. -/
def Comparator.isPattern : Comparator → Bool
  | regexp | regexpCaseSensitive => true
  | _ => false

theorem Comparator.isPattern_eq_false {comparator : Comparator}
    (plain : comparator.isSearch = false) : comparator.isPattern = false := by
  cases comparator <;> first | rfl | cases plain

theorem Comparator.isPattern_of_takesValue {comparator : Comparator}
    (valueless : comparator.takesValue = false) : comparator.isPattern = false := by
  cases comparator <;> first | rfl | cases valueless

/-- SQLite has no patterns. -/
def Dialect.Admits (dialect : Dialect) (comparator : Comparator) : Prop :=
  dialect = sqlite → comparator.isPattern = false

namespace PropertyCriterion

variable (registry : Registry) (dialect : Dialect)

theorem restricts_patternCondition (term : Term) (pattern : Param) :
    Restricts (dialect ≠ .sqlite) (patternCondition ⟨registry, dialect⟩ term pattern)
      (patternCondition ⟨registry, .mysql⟩ term pattern) := by
  intro condition
  cases dialect <;> simp [patternCondition]

theorem restricts_comparison (comparator : Comparator) (column : Column) (first : Value)
    (values : List Value) :
    Restricts (dialect.Admits comparator)
      (comparison ⟨registry, dialect⟩ comparator column first values)
      (comparison ⟨registry, .mysql⟩ comparator column first values) := by
  have pattern (term : Term) (param : Param) :=
    restricts_patternCondition registry dialect term param
  cases comparator with
  | regexp =>
    refine ((restricts_self trivial _).bind fun param => pattern (.lowered column) param).of_iff ?_
    simp [Dialect.Admits, Comparator.isPattern]
  | regexpCaseSensitive =>
    refine (pattern (.plain column) first.operandParam).of_iff ?_
    simp [Dialect.Admits, Comparator.isPattern]
  | _ => exact restricts_self (fun _ => rfl) _

theorem restricts_valueCondition? (criterion : PropertyCriterion) :
    Restricts (dialect.Admits criterion.comparator)
      (criterion.valueCondition? ⟨registry, dialect⟩)
      (criterion.valueCondition? ⟨registry, .mysql⟩) := by
  unfold valueCondition?
  split
  next valueless =>
    have plain := Comparator.isPattern_of_takesValue (by simpa using valueless)
    exact restricts_self (fun _ => plain) _
  next =>
    split
    next => exact restricts_error _ _ _
    next first rest _ =>
      -- Which column is compared does not depend on the dialect.
      have column : criterion.columnOf ⟨registry, dialect⟩ first =
          criterion.columnOf ⟨registry, .mysql⟩ first := rfl
      rw [column]
      generalize criterion.columnOf ⟨registry, .mysql⟩ first = column
      dsimp only
      split
      next => exact restricts_error _ _ _
      next =>
        exact ((restricts_comparison registry dialect _ _ _ _).bind fun _ =>
          restricts_self trivial _).of_iff (and_iff_left trivial)

end PropertyCriterion

/-- All dialects compile what MySQL does, SQLite without the criteria that match with a pattern. -/
theorem LeafScope.narrows_mysql (registry : Registry) (dialect : Dialect) :
    (⟨registry, dialect⟩ : LeafScope).Narrows ⟨registry, .mysql⟩
      (fun criterion => dialect.Admits criterion.comparator) := by
  intro criterion fold
  have demand : Restricts (dialect.Admits criterion.comparator)
      (criterion.demand? ⟨registry, dialect⟩) (criterion.demand? ⟨registry, .mysql⟩) := by
    cases criterion with
    | property criterion => exact criterion.restricts_valueCondition? registry dialect
    | type criterion =>
      intro found
      refine (and_iff_left_of_imp fun made _ => ?_).symm
      obtain ⟨condition, compared, -⟩ := bind_eq_ok.1 made
      exact Comparator.isPattern_eq_false (TypeCriterion.searches_of_condition compared).2
  exact (demand.bind fun _ => restricts_self trivial _).of_iff (and_iff_left trivial)

theorem Criterion.searchesOf_eq_zero_iff {criteria : List Criterion} :
    searchesOf criteria = 0 ↔ ∀ criterion ∈ criteria, criterion.comparator.isSearch = false := by
  induction criteria with
  | nil => simp [searchesOf]
  | cons criterion rest ih =>
    have more : searchesOf (criterion :: rest) = criterion.searches + searchesOf rest := rfl
    rw [more, Nat.add_eq_zero_iff, ih, List.forall_mem_cons, searches]
    cases criterion.comparator.isSearch <;> simp

namespace Dialect

/-- What the dialects make of criteria, some of which become conditions. -/
structure Agree (compile : Dialect → Except Error Condition) (compiled : List Criterion)
    (select : Condition → Select) : Prop where
  /-- Apart from SQLite all compile the same, or all fail. -/
  others : ∀ first second, first ≠ sqlite → second ≠ sqlite → ∀ condition,
    compile first = .ok condition ↔ compile second = .ok condition
  /-- SQLite fails where the others do, and where a condition would match with a pattern. -/
  sqlite : (∃ error, compile sqlite = .error error) ↔ (∃ error, compile mysql = .error error) ∨
    ∃ criterion ∈ compiled, criterion.comparator.isPattern = true
  text : ∀ first second, compile postgres = .ok first → compile redshift = .ok second →
    (select first).text postgres = (select second).text redshift
  /-- Dialects that both compile bind the same parameters exactly if they are both PostgreSQL's,
  neither of them is, or nothing is compared within texts. -/
  params : ∀ first second condition other, compile first = .ok condition →
    compile second = .ok other →
    ((select condition).params first = (select other).params second ↔
      first.isPostgres = second.isPostgres ∨
        ∀ criterion ∈ compiled, criterion.comparator.isSearch = false)

/-- Dialects agree on what they all compile as MySQL does. -/
theorem agree_of_restricts {compile : Dialect → Except Error Condition} {compiled : List Criterion}
    {select : Condition → Select}
    (restricts : ∀ dialect, Restricts (∀ criterion ∈ compiled, dialect.Admits criterion.comparator)
      (compile dialect) (compile mysql))
    (searches : ∀ dialect condition, compile dialect = .ok condition →
      condition.searches = Criterion.searchesOf compiled)
    (filter : ∀ condition, (select condition).filter = some condition) :
    Agree compile compiled select := by
  have same {first second : Dialect} {condition other : Condition}
      (made : compile first = .ok condition) (made' : compile second = .ok other) :
      condition = other :=
    Except.ok.inj (((restricts first _).1 made).1.symm.trans ((restricts second _).1 made').1)
  have patterned {dialect : Dialect} (other : dialect ≠ sqlite) (condition : Condition) :
      compile dialect = .ok condition ↔ compile mysql = .ok condition :=
    (restricts dialect condition).trans (and_iff_left fun _ _ own => absurd own other)
  constructor
  case others =>
    intro first second one other condition
    rw [patterned one, patterned other]
  case sqlite =>
    rw [(restricts sqlite).error_iff]
    simp [Admits]
  case text =>
    intro first second made made'
    rw [same made made', Select.text_redshift]
  case params =>
    intro first second condition other made made'
    obtain rfl := same made made'
    rw [Select.params_eq_iff _ (filter condition), searches first condition made,
      Criterion.searchesOf_eq_zero_iff]

end Dialect

/-- The dialects compile the same, in whole trees, single criteria and probes alike, and bind the
same parameters as far as nothing is compared within texts or they lose the same of it. -/
theorem LeafScope.dialects_agree (registry : Registry) (table : String) :
    (∀ (container : Container) (folding : Bool), Dialect.Agree
      (fun dialect => container.condition ⟨registry, dialect⟩ folding) (container.compiled folding)
      (Select.objects table)) ∧
    (∀ (criterion : Criterion) (fold : Option Fold), Dialect.Agree
      (fun dialect => criterion.leafCondition ⟨registry, dialect⟩ fold) [criterion]
      (Select.objects table)) ∧
    ∀ criterion : Criterion, Dialect.Agree (fun _ => criterion.probeCondition) []
      (Select.oneRow table) := by
  refine ⟨fun container folding => ?_, fun criterion fold => ?_, fun criterion => ?_⟩
  · exact Dialect.agree_of_restricts
      (fun dialect =>
        Container.restricts_condition (narrows_mysql registry dialect) folding container)
      (fun _ _ => Container.searches_of_condition) fun _ => rfl
  · refine Dialect.agree_of_restricts (fun dialect => ?_) (fun _ _ made => ?_) fun _ => rfl
    · exact (narrows_mysql registry dialect criterion fold).of_iff (by simp)
    · exact (Criterion.searches_of_leafCondition made).trans (Nat.add_zero _).symm
  · exact Dialect.agree_of_restricts (fun _ => restricts_self (by simp) _)
      (fun _ _ => Criterion.searches_of_probeCondition) fun _ => rfl

/-- A tree whose timestamps are folded. What is left of it is compared within texts, which SQLite
does as MySQL does, unless it is a pattern. -/
theorem LeafScope.dialects_agree_folded :
    let note (comparator : Comparator) : Criterion := .property
      ⟨"urn:note", comparator, some (.single (.string "b")), false, false, []⟩
    let container (comparator : Comparator) : Container := ⟨.and, [.leaf (note comparator),
      .leaf (.property ⟨Vocabulary.hasTimestamp, .ge, some (.single (.long 5)), false, false, []⟩)]⟩
    (container .regexp).compiled true = [note .regexp] ∧
      (∃ error, (container .regexp).condition ⟨.core, .sqlite⟩ true = .error error) ∧
      ∃ condition, (container .containsCaseSensitive).condition ⟨.core, .sqlite⟩ true =
          .ok condition ∧
        (container .containsCaseSensitive).condition ⟨.core, .mysql⟩ true = .ok condition ∧
        (Select.objects "notes" condition).params .sqlite =
          (Select.objects "notes" condition).params .mysql := by
  intro note container
  have compiled (comparator : Comparator) :
      (container comparator).compiled true = [note comparator] := rfl
  have trees := (dialects_agree .core "notes").1
  refine ⟨compiled .regexp, (trees (container .regexp) true).sqlite.2 (.inr ?_), ?_⟩
  · exact ⟨note .regexp, by rw [compiled]; exact List.mem_singleton_self _, rfl⟩
  · have made : ∃ condition, (container .containsCaseSensitive).condition ⟨.core, .sqlite⟩ true =
        .ok condition := ⟨_, rfl⟩
    obtain ⟨condition, made⟩ := made
    have made' : (container .containsCaseSensitive).condition ⟨.core, .mysql⟩ true =
        .ok condition := made
    refine ⟨condition, made, made', ?_⟩
    exact ((trees (container .containsCaseSensitive) true).params _ _ _ _ made made').2 (.inl rfl)

/-- MySQL binds the text that is looked for, and PostgreSQL does not. -/
theorem LeafScope.postgres_binds_less :
    let criterion : Criterion := .property ⟨Vocabulary.hasVersionIri, .containsCaseSensitive,
      some (.single (.string "b")), false, false, []⟩
    let condition : Condition := .all [.columnIs .name Vocabulary.hasVersionIri,
      .locate (.plain (.value .string false)) (.ofText "b")]
    let select := Select.objects "notes" condition
    criterion.leafCondition ⟨.core, .mysql⟩ none = .ok condition ∧
      criterion.leafCondition ⟨.core, .postgres⟩ none = .ok condition ∧
      select.params .mysql = [.ofText Vocabulary.hasVersionIri, .ofText "b", .i32 (some 0)] ∧
      select.params .postgres = [.ofText Vocabulary.hasVersionIri, .i32 (some 0)] ∧
      select.params .mysql ≠ select.params .postgres := by
  intro criterion condition select
  exact ⟨by rfl, by rfl, by rfl, by rfl, by decide⟩

end GraphSegments
