import GraphSegments.Proofs.Search.Compiled
import GraphSegments.Proofs.Search.Congruence

/-!
The statements that criteria become are templates: their texts depend on the shape of the criteria
and not on what stands in them. What stands in them is in the parameters.
-/

namespace GraphSegments
open Results

/-! Criteria of the same shape. Flags may differ, since statements do not show them. -/

/-- Criteria that compare equally many names with values of the same kinds in the same way, in
columns of the same kind and cardinality as far as these are registered. -/
structure PropertyCriterion.Alike (registry : Registry) (first second : PropertyCriterion) :
    Prop where
  comparator : first.comparator = second.comparator
  values : first.values.map Value.kind = second.values.map Value.kind
  expanded : first.expanded.length = second.expanded.length
  column : (registry.property? first.property).map (fun known => (known.kind, known.multiValued)) =
    (registry.property? second.property).map fun known => (known.kind, known.multiValued)

/-- Criteria that compare equally many types in the same way. -/
structure TypeCriterion.Alike (first second : TypeCriterion) : Prop where
  comparator : first.comparator = second.comparator
  types : first.types.length = second.types.length

def Criterion.Alike (registry : Registry) : Criterion → Criterion → Prop
  | property first, property second => first.Alike registry second
  | type first, type second => first.Alike second
  | _, _ => False

/-- Containers of the same structure with criteria of the same shape. -/
def Container.Alike (registry : Registry) (first second : Container) : Prop :=
  first.Corresponds (Criterion.Alike registry) second

/-- Conditions that differ in nothing but their parameters. -/
def Condition.Alike (first second : Condition) : Prop := first.blank = second.blank

namespace Condition

theorem blank_columnIn (column : Column) (texts : List String) :
    (columnIn column texts).blank = .oneOf column (List.replicate texts.length .blank) := by
  rw [columnIn, blank, List.length_map]

theorem Alike.oneOf (column : Column) {params others : List Param}
    (count : params.length = others.length) :
    (oneOf column params).Alike (oneOf column others) := by
  rw [Alike, blank, blank, count]

theorem Alike.noneOf (column : Column) {params others : List Param}
    (count : params.length = others.length) :
    (noneOf column params).Alike (noneOf column others) := by
  rw [Alike, blank, blank, count]

theorem Alike.all {first second : List Condition} (same : first.map blank = second.map blank) :
    (all first).Alike (all second) := by
  rw [Alike, blank, blank, blankAll_eq_map, blankAll_eq_map, same]

theorem Alike.any {first second : List Condition} (same : first.map blank = second.map blank) :
    (any first).Alike (any second) := by
  rw [Alike, blank, blank, blankAll_eq_map, blankAll_eq_map, same]

theorem isCongruence_alike : IsCongruence Alike where
  refl _ := rfl
  among alike := congrArg among alike
  notAmong alike := congrArg notAmong alike
  join {first second} alike connective := by
    have same : first.map blank = second.map blank := by
      induction alike with
      | nil => rfl
      | cons head _ ih => exact congrArg₂ List.cons head ih
    cases connective
    · exact Alike.all same
    · exact Alike.any same

end Condition

namespace PropertyCriterion

variable {scope : LeafScope} {first second : PropertyCriterion}

theorem blank_nameCondition (criterion : PropertyCriterion) :
    criterion.nameCondition.blank =
      if criterion.names.length = 1 then .compare (.plain .name) .eq .blank
      else .oneOf .name (List.replicate criterion.names.length .blank) := by
  unfold nameCondition
  cases criterion.names with
  | nil => rfl
  | cons name rest =>
    cases rest with
    | nil => rfl
    | cons other rest =>
      rw [if_neg (by simp)]
      exact (Condition.blank_columnIn _ _).trans (by simp)

theorem Alike.names_length (alike : first.Alike scope.registry second) :
    first.names.length = second.names.length := by
  have counts := alike.expanded
  unfold names
  cases one : first.expanded <;> cases other : second.expanded <;> simp_all

theorem Alike.nameCondition (alike : first.Alike scope.registry second) :
    first.nameCondition.Alike second.nameCondition := by
  rw [Condition.Alike, blank_nameCondition, blank_nameCondition, alike.names_length]

theorem Alike.columnOf (alike : first.Alike scope.registry second) {value other : Value}
    (kinds : value.kind = other.kind) :
    first.columnOf scope value = second.columnOf scope other := by
  have column := alike.column
  unfold PropertyCriterion.columnOf
  cases known : scope.registry.property? first.property <;>
    cases found : scope.registry.property? second.property <;>
      simp_all [alike.comparator]

theorem agree_loweredParam {value other : Value} (kinds : value.kind = other.kind) :
    Agree (fun _ _ => True) value.loweredParam other.loweredParam := by
  cases value <;> cases other <;> first | exact trivial | cases kinds

theorem agree_patternCondition (scope : LeafScope) (term : Term) (pattern other : Param) :
    Agree Condition.Alike (patternCondition scope term pattern)
      (patternCondition scope term other) := by
  unfold patternCondition
  split
  next => trivial
  next => exact (rfl : Condition.blank _ = Condition.blank _)

theorem agree_comparison (comparator : Comparator) (column : Column) {value other : Value}
    (kinds : value.kind = other.kind) {values others : List Value}
    (count : values.length = others.length) :
    Agree Condition.Alike (comparison scope comparator column value values)
      (comparison scope comparator column other others) := by
  have params : (values.map (·.operandParam)).length = (others.map (·.operandParam)).length := by
    simpa using count
  cases comparator with
  | containsCaseInsensitive =>
    exact (agree_loweredParam kinds).bind fun _ _ _ => (rfl : Condition.blank _ = Condition.blank _)
  | eqCaseInsensitive =>
    exact (agree_loweredParam kinds).bind fun _ _ _ => (rfl : Condition.blank _ = Condition.blank _)
  | regexp =>
    exact (agree_loweredParam kinds).bind fun _ _ _ => agree_patternCondition scope _ _ _
  | regexpCaseSensitive => exact agree_patternCondition scope _ _ _
  | oneOf => exact Condition.Alike.oneOf column params
  | noneOf => exact Condition.Alike.noneOf column params
  | _ => exact (rfl : Condition.blank _ = Condition.blank _)

theorem Alike.valueCondition? (alike : first.Alike scope.registry second) :
    Agree (fun a b => a.map Condition.blank = b.map Condition.blank)
      (first.valueCondition? scope) (second.valueCondition? scope) := by
  have kinds := alike.values
  unfold PropertyCriterion.valueCondition?
  rw [alike.comparator]
  split
  next => exact (rfl : Option.map _ none = none)
  next =>
    cases values : first.values with
    | nil =>
      cases others : second.values with
      | nil => trivial
      | cons other rest =>
        rw [values, others] at kinds
        cases kinds
    | cons value rest =>
      cases others : second.values with
      | nil =>
        rw [values, others] at kinds
        cases kinds
      | cons other rest' =>
        rw [values, others] at kinds
        obtain ⟨kind, kinds⟩ := List.cons.inj kinds
        have count : (value :: rest).length = (other :: rest').length := by
          simpa using congrArg List.length kinds
        simp only [alike.columnOf kind]
        split
        next => trivial
        next =>
          exact (agree_comparison _ _ kind count).bind fun _ _ same => congrArg some same

end PropertyCriterion

theorem TypeCriterion.Alike.condition {first second : TypeCriterion} (alike : first.Alike second) :
    Agree Condition.Alike first.condition second.condition := by
  obtain ⟨types, comparator, expand, negated⟩ := first
  obtain ⟨others, comparator', expand', negated'⟩ := second
  obtain ⟨rfl, count⟩ := alike
  unfold TypeCriterion.condition
  cases types <;> cases others
  · trivial
  · cases count
  · cases count
  · rename_i type rest other rest'
    have params : (((type :: rest).map versionless).map Param.ofText).length =
        (((other :: rest').map versionless).map Param.ofText).length := by
      simpa using count
    cases comparator with
    | eq | ne => exact (rfl : Condition.blank _ = Condition.blank _)
    | oneOf => exact Condition.Alike.oneOf _ params
    | noneOf => exact Condition.Alike.noneOf _ params
    | _ => trivial

namespace Criterion

variable {scope : LeafScope} {first second : Criterion}

theorem Alike.leafCondition (alike : first.Alike scope.registry second) :
    Agree Condition.Alike (first.leafCondition scope none) (second.leafCondition scope none) := by
  have subject : first.subject.Alike second.subject := by
    cases first <;> cases second
    · exact PropertyCriterion.Alike.nameCondition alike
    · cases alike
    · cases alike
    · exact rfl
  have demand : Agree (fun a b => a.map Condition.blank = b.map Condition.blank)
      (first.demand? scope) (second.demand? scope) := by
    cases first <;> cases second
    · exact PropertyCriterion.Alike.valueCondition? alike
    · cases alike
    · cases alike
    · exact (TypeCriterion.Alike.condition alike).bind fun _ _ same => congrArg some same
  refine demand.bind fun a b same => Condition.Alike.all ?_
  have rest : a.toList.map Condition.blank = b.toList.map Condition.blank := by
    cases a <;> cases b <;> simp_all
  simp only [Option.map_none, Option.toList_none, List.nil_append, List.map_cons, rest]
  rw [subject]

theorem Alike.probeCondition (alike : first.Alike scope.registry second) :
    Agree Condition.Alike first.probeCondition second.probeCondition := by
  cases first <;> cases second
  · exact Condition.Alike.all (congrArg (· :: []) (PropertyCriterion.Alike.nameCondition alike))
  · cases alike
  · cases alike
  · exact (TypeCriterion.Alike.condition alike).bind fun _ _ same =>
      Condition.Alike.all (congrArg (fun condition => [_, condition]) same)

theorem Alike.isSetNegation (alike : first.Alike scope.registry second) :
    first.isSetNegation = second.isSetNegation := by
  cases first <;> cases second
  · exact congrArg Comparator.isSetNegation (PropertyCriterion.Alike.comparator alike)
  · cases alike
  · cases alike
  · rfl

end Criterion

/-- Without folds, criteria of the same shape become conditions that differ in their parameters
only, or none do. -/
theorem Container.Alike.condition {scope : LeafScope} {first second : Container}
    (alike : first.Alike scope.registry second) :
    Agree Condition.Alike (first.condition scope false) (second.condition scope false) := by
  have carries : scope.Carries false (Criterion.Alike scope.registry) Condition.Alike :=
    { congruence := Condition.isCongruence_alike
      leaf alike fold unused := by
        cases fold with
        | none => exact Criterion.Alike.leafCondition alike
        | some fold => cases unused rfl
      isSetNegation := Criterion.Alike.isSetNegation
      wanted _ := rfl
      typesWanted _ := rfl }
  exact carries.agree_condition alike

/-! What criteria leave behind in texts. -/

mutual

/-- How many criteria of an element are comparisons within texts. -/
def Element.searches : Element → Nat
  | .leaf criterion => criterion.searches
  | .nested _ elements => Element.searchesAll elements

def Element.searchesAll : List Element → Nat
  | [] => 0
  | element :: rest => element.searches + Element.searchesAll rest

end

def Container.searches (container : Container) : Nat := Element.searchesAll container.elements

mutual

/-- Without folds, all criteria become conditions. -/
theorem Element.searchesOf_compiled (element : Element) :
    Criterion.searchesOf (element.compiled false) = element.searches := by
  match element with
  | .leaf criterion => exact Nat.add_zero _
  | .nested connective elements =>
    cases elements with
    | nil => rfl
    | cons element rest => exact searchesOf_compiledAll 0 (element :: rest)

theorem Element.searchesOf_compiledAll (place : Nat) (elements : List Element) :
    Criterion.searchesOf (Element.compiledAll false none place elements) =
      Element.searchesAll elements := by
  match elements with
  | [] => rfl
  | element :: rest =>
    rw [Element.compiledAll, Element.searchesAll, ← Element.searchesOf_compiled element,
      ← Element.searchesOf_compiledAll (place + 1) rest]
    exact Criterion.searchesOf_append ..

end

theorem Container.searchesOf_compiled (container : Container) :
    Criterion.searchesOf (container.compiled false) = container.searches :=
  Element.searchesOf_compiled container.asElement

/-! Statements are templates. -/

/-- A text that asks for objects has as many placeholders as parameters, unless it is one of
PostgreSQL's with comparisons within texts. -/
theorem Select.placeholdersIn_text_iff (dialect : Dialect) {table : String}
    (plain : placeholdersIn table = 0) (condition : Condition) (distinct : Bool)
    (page : Option (Nat × Nat)) :
    let select : Select := ⟨distinct, [.uri], table, some condition, false, page⟩
    placeholdersIn (select.text dialect) = (select.params dialect).length ↔
      dialect.isPostgres = false ∨ condition.searches = 0 := by
  intro select
  rw [placeholdersIn_text dialect plain condition distinct page, Nat.add_eq_left, Nat.mul_eq_zero,
    Dialect.lost]
  cases dialect.isPostgres <;> simp

/-- Criteria of the same shape become the same text or none, whatever they name and compare with.
It has a placeholder for each parameter, except in PostgreSQL's dialects: what they write for a
comparison within texts has placeholders that nothing is bound to. -/
theorem LeafScope.texts_are_templates (scope : LeafScope) {table : String}
    (plain : placeholdersIn table = 0) :
    (∀ first second : Container, first.Alike scope.registry second →
      Agree (fun a b => (Select.objects table a).text scope.dialect =
          (Select.objects table b).text scope.dialect)
        (first.condition scope false) (second.condition scope false)) ∧
    (∀ first second : Criterion, first.Alike scope.registry second →
      Agree (fun a b => (Select.objects table a).text scope.dialect =
          (Select.objects table b).text scope.dialect)
        (first.leafCondition scope none) (second.leafCondition scope none) ∧
      Agree (fun a b => (Select.oneRow table a).text scope.dialect =
          (Select.oneRow table b).text scope.dialect)
        first.probeCondition second.probeCondition) ∧
    (∀ (container : Container) condition, container.condition scope false = .ok condition →
      (placeholdersIn ((Select.objects table condition).text scope.dialect) =
          ((Select.objects table condition).params scope.dialect).length ↔
        scope.dialect.isPostgres = false ∨ container.searches = 0)) ∧
    (∀ (criterion : Criterion) condition, criterion.leafCondition scope none = .ok condition →
      (placeholdersIn ((Select.objects table condition).text scope.dialect) =
          ((Select.objects table condition).params scope.dialect).length ↔
        scope.dialect.isPostgres = false ∨ criterion.searches = 0)) ∧
    ∀ (criterion : Criterion) condition, criterion.probeCondition = .ok condition →
      placeholdersIn ((Select.oneRow table condition).text scope.dialect) =
        ((Select.oneRow table condition).params scope.dialect).length := by
  refine ⟨fun first second alike => ?_, fun first second alike => ⟨?_, ?_⟩,
    fun container condition composed => ?_, fun criterion condition compiled => ?_,
    fun criterion condition compiled => ?_⟩
  · exact alike.condition.mono fun a b same =>
      Select.text_eq_of_blank scope.dialect (.objects table a) same
  · exact alike.leafCondition.mono fun a b same =>
      Select.text_eq_of_blank scope.dialect (.objects table a) same
  · exact alike.probeCondition.mono fun a b same =>
      Select.text_eq_of_blank scope.dialect (.oneRow table a) same
  · rw [← container.searchesOf_compiled, ← Container.searches_of_condition composed]
    exact Select.placeholdersIn_text_iff scope.dialect plain condition true none
  · rw [← Criterion.searches_of_leafCondition compiled]
    exact Select.placeholdersIn_text_iff scope.dialect plain condition true none
  · exact (Select.placeholdersIn_text_iff scope.dialect plain condition false (some (1, 0))).2
      (.inr (Criterion.searches_of_probeCondition compiled))

/-- Two searches within texts, one of them for what would end a text in quotes. -/
theorem LeafScope.texts_are_templates_quotes :
    let scope : LeafScope := ⟨.core, .mysql⟩
    let search (property text other : String) : Container :=
      ⟨.or, [.leaf (.property ⟨property, .containsCaseInsensitive, some (.single (.string text)),
          false, false, []⟩),
        .nested .and [.leaf (.type ⟨[other], .ne, false, false⟩)]]⟩
    let first := search "urn:note" "a" "urn:a"
    let second := search "urn:\"?" "') OR 1 = 1 -- ?" Vocabulary.nodeClass
    placeholdersIn "notes_1" = 0 ∧ first.Alike scope.registry second ∧
      ∃ a b, first.condition scope false = .ok a ∧ second.condition scope false = .ok b ∧
        (Select.objects "notes_1" a).text .mysql = (Select.objects "notes_1" b).text .mysql ∧
        placeholdersIn ((Select.objects "notes_1" b).text .mysql) =
          ((Select.objects "notes_1" b).params .mysql).length := by
  intro scope search first second
  have plain : placeholdersIn "notes_1" = 0 := by decide
  have alike : first.Alike scope.registry second :=
    ⟨rfl, ⟨rfl, rfl, rfl, rfl⟩, ⟨rfl, ⟨rfl, rfl⟩, trivial⟩, trivial⟩
  obtain ⟨same, -, counted, -⟩ := scope.texts_are_templates plain
  have agree := same first second alike
  have compiles : (first.condition scope false).toOption.isSome = true := by rfl
  refine ⟨plain, alike, ?_⟩
  cases one : first.condition scope false with
  | error error =>
    rw [one] at compiles
    cases compiles
  | ok a =>
    cases other : second.condition scope false with
    | error error =>
      rw [one, other] at agree
      cases agree
    | ok b =>
      rw [one, other] at agree
      exact ⟨a, b, rfl, rfl, agree, (counted second b other).2 (.inl rfl)⟩

/-- PostgreSQL's text of a comparison within texts has lost the column and the text to look for. In
their places stand two placeholders, and the parameters are one too few. -/
theorem LeafScope.postgres_loses_bindings :
    let scope : LeafScope := ⟨.core, .postgres⟩
    let criterion : Criterion := .property ⟨Vocabulary.hasVersionIri, .containsCaseSensitive,
      some (.single (.string "b")), false, false, []⟩
    let condition : Condition := .all [.columnIs .name Vocabulary.hasVersionIri,
      .locate (.plain (.value .string false)) (.ofText "b")]
    let select := Select.objects "notes" condition
    criterion.leafCondition scope none = .ok condition ∧
      select.text .postgres = "SELECT DISTINCT \"uri\" FROM \"notes\" WHERE \"name\" = $1" ++
        " AND (strpos(?, ?)) > $2" ∧
      select.params .postgres = [.ofText Vocabulary.hasVersionIri, .i32 (some 0)] ∧
      placeholdersIn (select.text .postgres) ≠ (select.params .postgres).length := by
  intro scope criterion condition select
  exact ⟨by rfl, by decide +kernel, by rfl, by decide +kernel⟩

end GraphSegments
