import GraphSegments.Ontology
import Mathlib.Logic.Relation

/-!
The descendants of a class or a property: all that a chain of children leads to, also where parents
run in a circle. A generation that is not the last one leaves fewer edges whose child is missing,
so following as many generations as there are edges leaves none out.
-/

namespace GraphSegments.Registry

/-- A URI descends from another one if a chain of children leads to it. -/
def Descends (edges : List (String × Option String)) : String → String → Prop :=
  Relation.ReflTransGen fun parent child => (child, some parent) ∈ edges

/-- Every child of what was found was found itself. -/
def IsClosed (edges : List (String × Option String)) (found : List String) : Prop :=
  ∀ parent child, (child, some parent) ∈ edges → parent ∈ found → child ∈ found

variable {edges : List (String × Option String)} {found : List String} {uri : String}

theorem mem_withChildren : uri ∈ withChildren edges found ↔
    uri ∈ found ∨ ∃ parent ∈ found, (uri, some parent) ∈ edges := by
  simp only [withChildren, List.mem_append, List.mem_map, List.mem_filter, Bool.and_eq_true,
    Bool.not_eq_true', Option.any_eq_true]
  constructor
  · rintro (old | ⟨⟨child, parent?⟩, ⟨edge, ⟨parent, rfl, known⟩, -⟩, rfl⟩)
    · exact .inl old
    · exact .inr ⟨parent, by simpa using known, edge⟩
  · rintro (old | ⟨parent, known, edge⟩)
    · exact .inl old
    · by_cases old : uri ∈ found
      · exact .inl old
      · have fresh : (some parent).any found.contains = true ∧ found.contains uri = false := by
          simpa using ⟨known, old⟩
        exact .inr ⟨(uri, some parent), ⟨edge, ⟨parent, rfl, fresh.1⟩, fresh.2⟩, rfl⟩

theorem subset_generations (steps : Nat) : found ⊆ generations edges steps found := by
  induction steps generalizing found with
  | zero => exact fun _ listed => listed
  | succ steps ih => exact fun _ listed => ih (mem_withChildren.2 (.inl listed))

/-- Whatever is found descends from what the search began with. -/
theorem descends_of_mem_generations {steps : Nat} (listed : uri ∈ generations edges steps found) :
    ∃ start ∈ found, Descends edges start uri := by
  induction steps generalizing found with
  | zero => exact ⟨uri, listed, .refl⟩
  | succ steps ih =>
    obtain ⟨child, next, chain⟩ := ih listed
    rcases mem_withChildren.1 next with old | ⟨parent, known, edge⟩
    · exact ⟨child, old, chain⟩
    · exact ⟨parent, known, .head edge chain⟩

theorem IsClosed.generations (closed : IsClosed edges found) (steps : Nat) :
    generations edges steps found = found := by
  have same : withChildren edges found = found := by
    rw [withChildren, List.append_right_eq_self, List.map_eq_nil_iff, List.filter_eq_nil_iff]
    rintro ⟨child, parent?⟩ edge fresh
    obtain ⟨⟨parent, rfl, known⟩, missing⟩ : (∃ parent, parent? = some parent ∧
        parent ∈ found) ∧ child ∉ found := by simpa [Option.any_eq_true] using fresh
    exact missing (closed parent child edge known)
  induction steps with
  | zero => rfl
  | succ steps ih => rw [Registry.generations, same, ih]

/-- The edges whose child was not found. -/
def missing (edges : List (String × Option String)) (found : List String) :
    List (String × Option String) :=
  edges.filter fun edge => !found.contains edge.1

/-- As long as a child of what was found is missing, the next generation has one that was not. -/
theorem length_missing_lt (unfinished : ¬ IsClosed edges found) :
    (missing edges (withChildren edges found)).length < (missing edges found).length := by
  obtain ⟨parent, child, edge, known, lacking⟩ : ∃ parent child, (child, some parent) ∈ edges ∧
      parent ∈ found ∧ child ∉ found := by simpa [IsClosed] using unfinished
  have fewer : missing edges (withChildren edges found) =
      (missing edges found).filter fun edge => !(withChildren edges found).contains edge.1 := by
    rw [missing, missing, List.filter_filter]
    apply List.filter_congr
    intro other _
    by_cases old : other.1 ∈ found
    · simp [mem_withChildren, old]
    · simp [old]
  rw [fewer, List.length_filter_lt_length_iff_exists]
  refine ⟨(child, some parent), ?_, ?_⟩
  · simpa [missing] using ⟨edge, lacking⟩
  · simpa using mem_withChildren.2 (.inr ⟨parent, known, edge⟩)

theorem isClosed_generations {steps : Nat} (enough : (missing edges found).length ≤ steps) :
    IsClosed edges (generations edges steps found) := by
  induction steps generalizing found with
  | zero =>
    intro parent child edge _
    have none : missing edges found = [] := List.length_eq_zero_iff.1 (Nat.le_zero.1 enough)
    have old : child ∈ found := by simpa using List.filter_eq_nil_iff.1 none _ edge
    exact old
  | succ steps ih =>
    by_cases closed : IsClosed edges found
    · rw [closed.generations]
      exact closed
    · have fewer := length_missing_lt closed
      exact ih (by omega)

/-- The descendants of a URI are all that descend from it. -/
theorem mem_descendants {root : String} {withRoot : Bool} :
    uri ∈ descendants edges root withRoot ↔
      Descends edges root uri ∧ (withRoot = true ∨ uri ≠ root) := by
  have reached : uri ∈ generations edges edges.length [root] ↔ Descends edges root uri := by
    constructor
    · intro listed
      obtain ⟨start, first, chain⟩ := descends_of_mem_generations listed
      exact List.mem_singleton.1 first ▸ chain
    · intro chain
      have closed : IsClosed edges (generations edges edges.length [root]) :=
        isClosed_generations (List.length_filter_le _ _)
      induction chain with
      | refl => exact subset_generations _ List.mem_cons_self
      | tail _ edge ih => exact closed _ _ edge ih
  rw [descendants, List.mem_mergeSort, List.mem_filter, reached]
  simp

/-- Where no two descendants are listed, a URI has no descendant but itself. -/
theorem descends_iff_of_alone {root : String}
    (alone : ∀ first second rest, descendants edges root true = first :: second :: rest → False) :
    Descends edges root uri ↔ uri = root := by
  have listed : root ∈ descendants edges root true := mem_descendants.2 ⟨.refl, .inl rfl⟩
  have own : descendants edges root true = [root] := by
    match same : descendants edges root true with
    | [] => exact absurd (same ▸ listed : root ∈ []) List.not_mem_nil
    | [only] =>
      have sole : root ∈ [only] := same ▸ listed
      rw [List.mem_singleton.1 sole]
    | first :: second :: rest => exact (alone first second rest same).elim
  rw [← List.mem_singleton, ← own, mem_descendants]
  simp

end GraphSegments.Registry
