import GraphSegments.Proofs.Search.Transparency

/-!
The order of criteria. Without folds it makes no difference in which order a container holds its
elements, at whatever depth: neither to what the container means, nor to whether it can be composed
as one statement.
-/

namespace GraphSegments
open Results Dialogue UriSet

mutual

/-- Elements that differ in nothing but the order in which their containers hold elements. -/
inductive Element.Rearranges : Element → Element → Prop
  | leaf (criterion : Criterion) : Rearranges (.leaf criterion) (.leaf criterion)
  | nested (connective : Connective) {elements others : List Element} :
      Element.RearrangesAll elements others →
      Rearranges (.nested connective elements) (.nested connective others)

/-- Lists of elements of which one is a permutation of the other, once the elements themselves are
rearranged. -/
inductive Element.RearrangesAll : List Element → List Element → Prop
  | nil : RearrangesAll [] []
  | cons {element other : Element} {rest others : List Element} :
      Element.Rearranges element other → RearrangesAll rest others →
      RearrangesAll (element :: rest) (other :: others)
  | swap (first second : Element) (rest : List Element) :
      RearrangesAll (first :: second :: rest) (second :: first :: rest)
  | trans {first second third : List Element} :
      RearrangesAll first second → RearrangesAll second third → RearrangesAll first third

end

/-- Containers that differ in nothing but the order of elements, at any depth. -/
structure Container.Rearranges (first second : Container) : Prop where
  connective : first.connective = second.connective
  elements : Element.RearrangesAll first.elements second.elements

namespace Element

mutual

theorem Rearranges.refl (element : Element) : element.Rearranges element := by
  match element with
  | .leaf criterion => exact .leaf criterion
  | .nested connective elements => exact .nested connective (RearrangesAll.refl elements)

theorem RearrangesAll.refl (elements : List Element) : RearrangesAll elements elements := by
  match elements with
  | [] => exact .nil
  | element :: rest => exact .cons (Rearranges.refl element) (RearrangesAll.refl rest)

end

/-- Every permutation of the elements of a container rearranges them. -/
theorem RearrangesAll.of_perm {elements others : List Element} (perm : elements.Perm others) :
    RearrangesAll elements others := by
  induction perm with
  | nil => exact .nil
  | cons element _ ih => exact .cons (.refl element) ih
  | swap first second rest => exact .swap second first rest
  | trans _ _ first second => exact .trans first second

/-! What all criteria have in common they have in any order. -/

section Every

variable {p : Criterion → Prop}

mutual

theorem Rearranges.every_iff {element other : Element} (rearranges : element.Rearranges other) :
    element.Every p ↔ other.Every p := by
  match rearranges with
  | .leaf criterion => rfl
  | .nested connective elements => exact RearrangesAll.everyAll_iff elements

theorem RearrangesAll.everyAll_iff {elements others : List Element}
    (rearranges : RearrangesAll elements others) : EveryAll p elements ↔ EveryAll p others := by
  match rearranges with
  | .nil => rfl
  | .cons first rest => exact and_congr (Rearranges.every_iff first) (RearrangesAll.everyAll_iff rest)
  | .swap first second rest => exact and_left_comm
  | .trans first second =>
    exact (RearrangesAll.everyAll_iff first).trans (RearrangesAll.everyAll_iff second)

end

end Every

/-! Without folds no place counts, so that elements mean the same in any order. -/

section Meaning

variable {reading : Reading} {uri : String}

theorem matchesAll_cons (element : Element) (rest : List Element) (place : Nat) :
    MatchesAll reading false none uri place (element :: rest) ↔
      element.Matches reading false none uri ∧
        MatchesAll reading false none uri (place + 1) rest := by
  simp [MatchesAll]

mutual

theorem Rearranges.matches_iff {element other : Element} (rearranges : element.Rearranges other) :
    element.Matches reading false none uri ↔ other.Matches reading false none uri := by
  match rearranges with
  | .leaf criterion => rfl
  | .nested .and all =>
    have every := RearrangesAll.matchesAll_iff all 0
    simp [matches_nested, Fold.typesWanted, Container.Matches, Container.Joins, every]
  | .nested .or all =>
    have some := RearrangesAll.matchesSome_iff all
    simp [matches_nested, Fold.typesWanted, Container.Matches, Container.Joins, some]

theorem RearrangesAll.matchesAll_iff {elements others : List Element}
    (rearranges : RearrangesAll elements others) (place : Nat) :
    MatchesAll reading false none uri place elements ↔
      MatchesAll reading false none uri place others := by
  match rearranges with
  | .nil => rfl
  | .cons first rest =>
    rw [matchesAll_cons, matchesAll_cons]
    exact and_congr (Rearranges.matches_iff first) (RearrangesAll.matchesAll_iff rest (place + 1))
  | .swap first second rest =>
    simp only [matchesAll_cons]
    exact and_left_comm
  | .trans first second =>
    exact (RearrangesAll.matchesAll_iff first place).trans
      (RearrangesAll.matchesAll_iff second place)

theorem RearrangesAll.matchesSome_iff {elements others : List Element}
    (rearranges : RearrangesAll elements others) :
    MatchesSome reading false uri elements ↔ MatchesSome reading false uri others := by
  match rearranges with
  | .nil => rfl
  | .cons first rest =>
    exact or_congr (Rearranges.matches_iff first) (RearrangesAll.matchesSome_iff rest)
  | .swap first second rest => exact or_left_comm
  | .trans first second =>
    exact (RearrangesAll.matchesSome_iff first).trans (RearrangesAll.matchesSome_iff second)

end

end Meaning

end Element

theorem Container.Rearranges.matches_iff {container rearranged : Container}
    (rearranges : container.Rearranges rearranged) (reading : Reading) (uri : String) :
    container.Matches reading false uri ↔ rearranged.Matches reading false uri := by
  obtain ⟨connective, elements⟩ := container
  obtain ⟨_, others⟩ := rearranged
  obtain ⟨rfl, perm⟩ := rearranges
  have nested : (Element.nested connective elements).Matches reading false none uri ↔
      (Element.nested connective others).Matches reading false none uri :=
    (Element.Rearranges.nested connective perm).matches_iff
  simpa only [Element.matches_nested, Fold.typesWanted, Bool.false_eq_true, if_false] using nested

/-! Without folds a container can be composed if and only if each of its criteria is a condition. -/

section Composing

variable {scope : LeafScope}

theorem Criterion.exists_clause_iff (criterion : Criterion) :
    (∃ clause, criterion.clause scope none = .ok clause) ↔ criterion.Compiles scope := by
  constructor
  · rintro ⟨⟨condition, applied⟩, composed⟩
    exact compiles_of_clause composed
  · rintro ⟨demand, demanded⟩
    rw [Criterion.clause, Criterion.leafCondition, demanded]
    split
    next => exact ⟨_, rfl⟩
    next => exact ⟨_, rfl⟩

/-- What a container is composed of, where nothing is folded. -/
theorem Container.exists_condition_of (connective : Connective) (elements : List Element) :
    (∃ condition, Container.condition scope false ⟨connective, elements⟩ = .ok condition) ↔
      ∃ clauses, Element.clauses scope false none 0 elements = .ok clauses := by
  cases elements with
  | nil => cases connective <;> exact iff_of_true ⟨_, rfl⟩ ⟨_, rfl⟩
  | cons first rest =>
    have whole : Container.condition scope false ⟨connective, first :: rest⟩ =
        Element.clauses scope false none 0 (first :: rest) >>= fun clauses =>
          .ok (Container.join connective (clauses.1 ++ if clauses.2 then [] else [])) := rfl
    rw [whole]
    constructor
    · rintro ⟨condition, composed⟩
      obtain ⟨clauses, composed, -⟩ := bind_eq_ok.1 composed
      exact ⟨clauses, composed⟩
    · rintro ⟨clauses, composed⟩
      rw [composed]
      exact ⟨_, rfl⟩

theorem Element.exists_clauses_cons (place : Nat) (element : Element) (rest : List Element) :
    (∃ clauses, Element.clauses scope false none place (element :: rest) = .ok clauses) ↔
      (∃ clause, element.clause scope false none = .ok clause) ∧
        ∃ clauses, Element.clauses scope false none (place + 1) rest = .ok clauses := by
  constructor
  · rintro ⟨⟨conditions, applied⟩, composed⟩
    obtain ⟨condition, others, first, later, head, tail, -, -⟩ :=
      Element.clauses_uncovered rfl composed
    exact ⟨⟨_, head⟩, ⟨_, tail⟩⟩
  · rintro ⟨⟨clause, head⟩, ⟨clauses, tail⟩⟩
    rw [Element.clauses, head, tail]
    exact ⟨_, rfl⟩

mutual

theorem Element.exists_clause_iff (element : Element) :
    (∃ clause, element.clause scope false none = .ok clause) ↔
      element.Every (Criterion.Compiles scope) := by
  match element with
  | .leaf criterion => exact criterion.exists_clause_iff
  | .nested connective elements =>
    have nested : (Element.nested connective elements).clause scope false none =
        (Container.condition scope false ⟨connective, elements⟩).map (·, false) :=
      Element.clause_nested connective elements
    have whole := (Container.exists_condition_of connective elements).trans
      (Element.exists_clauses_iff 0 elements)
    constructor
    · rintro ⟨clause, composed⟩
      obtain ⟨condition, composed, -⟩ := map_eq_ok.1 (nested ▸ composed)
      exact whole.1 ⟨condition, composed⟩
    · intro every
      obtain ⟨condition, composed⟩ := whole.2 every
      exact ⟨_, nested.trans (congrArg _ composed)⟩

theorem Element.exists_clauses_iff (place : Nat) (elements : List Element) :
    (∃ clauses, Element.clauses scope false none place elements = .ok clauses) ↔
      Element.EveryAll (Criterion.Compiles scope) elements := by
  match elements with
  | [] => exact iff_of_true ⟨_, rfl⟩ trivial
  | element :: rest =>
    rw [Element.exists_clauses_cons]
    exact and_congr (Element.exists_clause_iff element)
      (Element.exists_clauses_iff (place + 1) rest)

end

theorem Container.exists_condition_iff (container : Container) :
    (∃ condition, container.condition scope false = .ok condition) ↔
      Element.EveryAll (Criterion.Compiles scope) container.elements :=
  (Container.exists_condition_of container.connective container.elements).trans
    (Element.exists_clauses_iff 0 container.elements)

end Composing

/-- Elements commute. Without probes and folds, criteria whose containers hold the same elements in
another order, at any depth, find the same objects in either mode, and they can be composed as one
statement if and only if the others can. -/
theorem SegmentScope.elements_commute (scope : SegmentScope) (database : Database)
    (records : List Record) (container rearranged : Container)
    (present : database.recordsOf scope.table = .ok records) (unprobed : scope.probing = false)
    (unfolded : scope.folding = false) (rearranges : container.Rearranges rearranged) :
    (∀ mode found others, (scope.search mode container).run database = .ok found →
        (scope.search mode rearranged).run database = .ok others → found = others) ∧
      ((∃ condition, container.condition scope.toLeafScope scope.folding = .ok condition) ↔
        ∃ condition, rearranged.condition scope.toLeafScope scope.folding = .ok condition) := by
  constructor
  · intro mode found others ran reran
    have describes := Reading.describes_ofRecords scope.toLeafScope database.patterns records
    have same : scope.unprobed = scope := by rw [SegmentScope.unprobed, ← unprobed]
    have finds {criteria : Container} {uris : UriSet}
        (ran : (scope.search mode criteria).run database = .ok uris) :=
      finds_unprobed present describes mode (same.symm ▸ ran)
    refine (finds ran).unique (finds reran) fun uri _ => ?_
    rw [unfolded]
    exact rearranges.matches_iff _ uri
  · rw [unfolded, Container.exists_condition_iff, Container.exists_condition_iff]
    exact rearranges.elements.everyAll_iff

/-- Nodes without a timestamp, by criteria that change places in both containers. -/
theorem SegmentScope.elements_commute_undated :
    let scope : SegmentScope := ⟨⟨.core, .sqlite⟩, "notes", 0, false, false⟩
    let row (uri name type : String) (value : Value) : Record :=
      .ofRow ⟨uri, name, type, false, none, none, value, false, none⟩
    let database := Database.ofTable "notes"
      [row "urn:a" Vocabulary.hasTimestamp Vocabulary.messageClass (.long 7),
        row "urn:b" Vocabulary.vitaltype Vocabulary.nodeClass (.uri Vocabulary.nodeClass)]
    let stamped (comparator : Comparator) (operand : Option Operand) : Element :=
      .leaf (.property ⟨Vocabulary.hasTimestamp, comparator, operand, false, false, []⟩)
    let early := stamped .lt (some (.single (.long 5)))
    let undated := stamped .absent none
    let node : Element := .leaf (.type ⟨[Vocabulary.nodeClass], .eq, false, false⟩)
    let criteria : Container := ⟨.and, [undated, node, .nested .or [early, node]]⟩
    let rearranged : Container := ⟨.and, [.nested .or [node, early], undated, node]⟩
    (∀ mode, (scope.search mode criteria).run database = .ok ["urn:b"]) ∧
      (∀ mode, (scope.search mode rearranged).run database = .ok ["urn:b"]) ∧
      ∃ condition, rearranged.condition scope.toLeafScope scope.folding = .ok condition := by
  intro scope row database stamped early undated node criteria rearranged
  let either : Element := .nested .or [early, node]
  have moved : ([undated, node] ++ [either]).Perm ([either] ++ [undated, node]) :=
    List.perm_append_comm
  have turned : either.Rearranges (.nested .or [node, early]) :=
    .nested .or (.swap early node [])
  have rearranges : criteria.Rearranges rearranged :=
    ⟨rfl, .trans (.of_perm moved) (.cons turned (.refl [undated, node]))⟩
  have commute := elements_commute scope database _ criteria rearranged
    (Database.recordsOf_ofTable _ _) rfl rfl rearranges
  have found (mode : ExecutionMode) : (scope.search mode criteria).run database = .ok ["urn:b"] := by
    cases mode <;> exact eq_ok_of_toOption (by decide +kernel)
  refine ⟨found, fun mode => ?_, commute.2.1 ⟨_, rfl⟩⟩
  obtain ⟨others, ran⟩ : ∃ others, (scope.search mode rearranged).run database = .ok others := by
    cases mode <;> exact ⟨["urn:b"], eq_ok_of_toOption (by decide +kernel)⟩
  rw [ran, ← commute.1 mode _ others (found mode) ran]

end GraphSegments
