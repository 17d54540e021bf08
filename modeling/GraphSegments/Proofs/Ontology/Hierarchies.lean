import GraphSegments.Proofs.Ontology.Descendants
import GraphSegments.Proofs.Sorting
import Mathlib.Data.Finset.Card
import Mathlib.Data.Nat.Find

/-!
Hierarchies of classes and properties, looked up from below and from above. Both look-ups give the
reflexive and transitive closure of the relation of a class to its parent, also where parents run in
a circle or are not registered. From below, a chain of parents that is longer than the list of
classes repeats one, so what it leads to is found before; from above, every generation but the last
one finds something new.
-/

namespace GraphSegments

namespace Lists

variable {α : Type}

/-- Where no key is there twice, an item is found under its own key. -/
theorem find?_eq_some_iff_of_nodup (key : α → String) {items : List α} {own : String} {item : α}
    (distinct : (items.map key).Nodup) :
    items.find? (key · == own) = some item ↔ item ∈ items ∧ key item = own := by
  constructor
  · intro found
    exact ⟨List.mem_of_find?_eq_some found, by simpa using List.find?_some found⟩
  · rintro ⟨listed, rfl⟩
    induction items with
    | nil => exact absurd listed List.not_mem_nil
    | cons first rest ih =>
      obtain ⟨new, distinct⟩ := List.nodup_cons.1 distinct
      rcases List.mem_cons.1 listed with rfl | later
      · simp
      · have differs : key first ≠ key item := fun same =>
          new (same ▸ List.mem_map_of_mem later)
        rw [List.find?_cons_of_neg (by simpa using differs)]
        exact ih distinct later

/-- Putting an item in place of those of its key leaves every key there once. -/
theorem nodup_replace (key : α → String) {items : List α} (distinct : (items.map key).Nodup)
    (item : α) : ((items.filter (key · != key item) ++ [item]).map key).Nodup := by
  rw [List.map_append, List.map_singleton]
  refine List.nodup_append.2 ⟨distinct.sublist (List.filter_sublist.map key),
    List.nodup_singleton _, ?_⟩
  rintro kept member last same rfl
  obtain ⟨other, listed, equal⟩ := List.mem_map.1 member
  obtain rfl := List.mem_singleton.1 same
  exact absurd equal (by simpa using (List.mem_filter.1 listed).2)

end Lists

namespace Registry

/-- No class and no property is defined twice. -/
structure IsKeyed (registry : Registry) : Prop where
  classes : (registry.classes.map (·.uri)).Nodup
  properties : (registry.properties.map (·.uri)).Nodup

section Keyed

variable {registry : Registry}

theorem isKeyed_core : core.IsKeyed where
  classes := by decide
  properties := by decide

/-- Ontologies, older or not, define nothing twice. -/
theorem IsKeyed.addOntology (keyed : registry.IsKeyed) (ontology : OntologyDef) :
    (registry.addOntology ontology).IsKeyed :=
  ⟨keyed.classes, keyed.properties⟩

theorem IsKeyed.addOlder (keyed : registry.IsKeyed) (ontology : OntologyDef) :
    (registry.addOlder ontology).IsKeyed :=
  ⟨keyed.classes, keyed.properties⟩

theorem IsKeyed.addClass (keyed : registry.IsKeyed) (definition : ClassDef) :
    (registry.addClass definition).IsKeyed :=
  ⟨Lists.nodup_replace ClassDef.uri keyed.classes definition, keyed.properties⟩

theorem IsKeyed.addProperty (keyed : registry.IsKeyed) (definition : PropertyDef) :
    (registry.addProperty definition).IsKeyed :=
  ⟨keyed.classes, Lists.nodup_replace PropertyDef.uri keyed.properties definition⟩

end Keyed

section Upward

variable {registry : Registry} {uri ancestor : String} {steps count : Nat}

/-- The class that a class extends, if it is registered and extends one. -/
def parent? (registry : Registry) (uri : String) : Option String :=
  (registry.class? uri).bind (·.parent)

/-- A class extends another one if a chain of parents leads to it. -/
def Extends (registry : Registry) : String → String → Prop :=
  Relation.ReflTransGen fun child parent => registry.parent? child = some parent

/-- The ancestor of a class so many parents up. -/
def ancestor? (registry : Registry) : Nat → String → Option String
  | 0, uri => some uri
  | count + 1, uri => (registry.parent? uri).bind (registry.ancestor? count)

theorem ancestor?_add (registry : Registry) (first second : Nat) (uri : String) :
    registry.ancestor? (first + second) uri =
      (registry.ancestor? first uri).bind (registry.ancestor? second) := by
  induction first generalizing uri with
  | zero => simp [ancestor?]
  | succ first ih =>
    rw [Nat.add_right_comm, ancestor?, ancestor?, Option.bind_assoc]
    exact congrArg _ (funext ih)

theorem extends_iff_exists_ancestor? :
    registry.Extends uri ancestor ↔ ∃ count, registry.ancestor? count uri = some ancestor := by
  constructor
  · intro chain
    induction chain with
    | refl => exact ⟨0, rfl⟩
    | tail _ parent ih =>
      obtain ⟨count, above⟩ := ih
      refine ⟨count + 1, ?_⟩
      rw [ancestor?_add, above]
      simp [ancestor?, parent]
  · rintro ⟨count, above⟩
    induction count generalizing uri with
    | zero => exact Option.some.inj above ▸ .refl
    | succ count ih =>
      obtain ⟨parent, own, above⟩ := Option.bind_eq_some_iff.1 above
      exact .head own (ih above)

theorem mem_lineageWithin : ancestor ∈ registry.lineageWithin steps uri ↔
    ∃ count ≤ steps, registry.ancestor? count uri = some ancestor := by
  induction steps generalizing uri with
  | zero => simp [lineageWithin, ancestor?, eq_comm]
  | succ steps ih =>
    have split : (∃ count ≤ steps + 1, registry.ancestor? count uri = some ancestor) ↔
        uri = ancestor ∨ ∃ parent ∈ registry.parent? uri,
          ∃ count ≤ steps, registry.ancestor? count parent = some ancestor := by
      constructor
      · rintro ⟨_ | count, within, above⟩
        · exact .inl (Option.some.inj above)
        · obtain ⟨parent, own, above⟩ := Option.bind_eq_some_iff.1 above
          exact .inr ⟨parent, own, count, by omega, above⟩
      · rintro (rfl | ⟨parent, own, count, within, above⟩)
        · exact ⟨0, by omega, rfl⟩
        · exact ⟨count + 1, by omega, Option.bind_eq_some_iff.2 ⟨parent, own, above⟩⟩
    rw [split, lineageWithin]
    cases own : (registry.class? uri).bind (·.parent) with
    | none => simp [parent?, own, eq_comm]
    | some parent => simp [parent?, own, ih, eq_comm]

/-- Every class below an ancestor has a parent, so it is registered. -/
theorem exists_class_of_ancestor? (above : registry.ancestor? count uri = some ancestor)
    {place : Nat} (below : place < count) :
    ∃ definition ∈ registry.classes, registry.ancestor? place uri = some definition.uri := by
  obtain ⟨rest, rfl⟩ : ∃ rest, count = place + (rest + 1) := ⟨count - place - 1, by omega⟩
  rw [ancestor?_add] at above
  obtain ⟨child, reached, above⟩ := Option.bind_eq_some_iff.1 above
  obtain ⟨parent, own, -⟩ := Option.bind_eq_some_iff.1 above
  obtain ⟨definition, known, -⟩ := Option.bind_eq_some_iff.1 own
  have same : definition.uri = child := by simpa using List.find?_some known
  exact ⟨definition, List.mem_of_find?_eq_some known, same ▸ reached⟩

/-- A chain of parents longer than the list of classes comes through one of them twice, and what
lies between can be left out. -/
theorem exists_ancestor?_le (above : registry.ancestor? count uri = some ancestor) :
    ∃ count ≤ registry.classes.length, registry.ancestor? count uri = some ancestor := by
  induction count using Nat.strong_induction_on with
  | h count ih =>
    by_cases short : count ≤ registry.classes.length
    · exact ⟨count, short, above⟩
    · let known := (registry.classes.map fun definition => some definition.uri).toFinset
      have fewer : known.card < (Finset.range count).card := by
        calc
          known.card ≤ (registry.classes.map fun definition => some definition.uri).length :=
            List.toFinset_card_le _
          _ = registry.classes.length := List.length_map _
          _ < count := Nat.lt_of_not_le short
          _ = (Finset.range count).card := (Finset.card_range count).symm
      have inside : Set.MapsTo (registry.ancestor? · uri) (Finset.range count) known := by
        intro place below
        obtain ⟨definition, listed, reached⟩ :=
          exists_class_of_ancestor? above (Finset.mem_range.1 below)
        simpa [known, reached] using ⟨definition, listed, rfl⟩
      obtain ⟨first, below, second, below', differs, same⟩ :=
        Finset.exists_ne_map_eq_of_card_lt_of_maps_to fewer inside
      have shorter (first second : Nat) (before : first < second) (within : second < count)
          (same : registry.ancestor? first uri = registry.ancestor? second uri) :
          registry.ancestor? (first + (count - second)) uri = some ancestor := by
        rw [ancestor?_add, same, ← ancestor?_add, Nat.add_sub_cancel' within.le, above]
      rw [Finset.mem_range] at below below'
      rcases Nat.lt_or_gt_of_ne differs with before | before
      · exact ih _ (by omega) (shorter first second before below' same)
      · exact ih _ (by omega) (shorter second first before below same.symm)

/-- As many parents as there are classes lead to every ancestor, so looking further finds no other
one. -/
theorem mem_lineageWithin_iff_extends (enough : registry.classes.length ≤ steps) :
    ancestor ∈ registry.lineageWithin steps uri ↔ registry.Extends uri ancestor := by
  rw [mem_lineageWithin, extends_iff_exists_ancestor?]
  constructor
  · rintro ⟨count, -, above⟩
    exact ⟨count, above⟩
  · rintro ⟨count, above⟩
    obtain ⟨count, within, above⟩ := exists_ancestor?_le above
    exact ⟨count, within.trans enough, above⟩

theorem isSubclassOf_iff_extends :
    registry.isSubclassOf uri ancestor = true ↔ registry.Extends uri ancestor := by
  rw [isSubclassOf, List.contains_iff_mem, lineage, mem_lineageWithin_iff_extends le_rfl]

end Upward

section Downward

variable {edges : List (String × Option String)} {root uri : String}

/-- Generations find every URI once if none has two edges. -/
theorem nodup_generations (distinct : (edges.map (·.1)).Nodup) (steps : Nat) {found : List String}
    (once : found.Nodup) : (generations edges steps found).Nodup := by
  induction steps generalizing found with
  | zero => exact once
  | succ steps ih =>
    apply ih
    refine List.nodup_append.2 ⟨once, distinct.sublist (List.filter_sublist.map _), ?_⟩
    rintro uri old new listed rfl
    obtain ⟨edge, member, same⟩ := List.mem_map.1 listed
    have fresh : uri ∉ found := by
      have fresh := (List.mem_filter.1 member).2
      simp only [Bool.and_eq_true, Bool.not_eq_true'] at fresh
      simpa [← same] using fresh.2
    exact fresh old

/-- Looking further than through as many generations as there are edges finds nothing else. -/
theorem generations_of_enough {steps : Nat} (enough : edges.length ≤ steps) :
    generations edges steps [root] = generations edges edges.length [root] := by
  obtain ⟨more, rfl⟩ := Nat.exists_eq_add_of_le enough
  have closed : IsClosed edges (generations edges edges.length [root]) :=
    isClosed_generations (List.length_filter_le _ _)
  have split (first second : Nat) (found : List String) :
      generations edges (first + second) found =
        generations edges second (generations edges first found) := by
    induction first generalizing found with
    | zero => simp [generations]
    | succ first ih => rw [Nat.add_right_comm, generations, generations, ih]
  rw [split, closed.generations]

variable (distinct : (edges.map (·.1)).Nodup)
include distinct

theorem pairwise_descendants (withRoot : Bool) :
    (descendants edges root withRoot).Pairwise (· < ·) := by
  have once : (descendants edges root withRoot).Nodup :=
    (List.mergeSort_perm _ _).nodup_iff.2
      ((nodup_generations distinct _ (List.nodup_singleton root)).filter _)
  have sorted : (descendants edges root withRoot).Pairwise (· ≤ ·) :=
    Lists.pairwise_mergeSort_by id _
  exact (sorted.and once).imp fun order => lt_of_le_of_ne order.1 order.2

/-- Without the root there are the same descendants but for the root. -/
theorem descendants_false :
    descendants edges root false = (descendants edges root true).filter (· != root) := by
  have same : (descendants edges root false).Perm
      ((descendants edges root true).filter (· != root)) := by
    apply (List.perm_ext_iff_of_nodup _ _).2
    · intro uri
      simp [mem_descendants]
    · exact (pairwise_descendants distinct false).imp fun below => below.ne
    · exact ((pairwise_descendants distinct true).imp fun below => below.ne).filter _
  exact same.eq_of_pairwise (fun _ _ _ _ below above => absurd below above.asymm)
    (pairwise_descendants distinct false) ((pairwise_descendants distinct true).filter _)

end Downward

section Both

variable {registry : Registry} {uri ancestor : String}

/-- Where no URI is defined twice, the edges of definitions are the parents that look-ups give. -/
theorem descends_iff_of_nodup {α : Type} (key : α → String) (parent : α → Option String)
    {items : List α} (distinct : (items.map key).Nodup) {root : String} :
    Descends (items.map fun known => (key known, parent known)) root uri ↔
      Relation.ReflTransGen (fun child above =>
        (items.find? (key · == child)).bind parent = some above) uri root := by
  have edge (child above : String) :
      (child, some above) ∈ items.map (fun known => (key known, parent known)) ↔
        (items.find? (key · == child)).bind parent = some above := by
    rw [Option.bind_eq_some_iff, List.mem_map]
    apply exists_congr
    intro known
    rw [Lists.find?_eq_some_iff_of_nodup key distinct, and_assoc, Prod.mk.injEq]
  rw [Descends, ← Relation.reflTransGen_swap]
  simp only [edge]

/-- A property refines another one if a chain of parents leads to it. -/
def Refines (registry : Registry) : String → String → Prop :=
  Relation.ReflTransGen fun child parent =>
    (registry.property? child).bind (·.parent) = some parent

/-- A class below a registered one is registered. -/
theorem isSome_class?_of_extends (below : registry.Extends uri ancestor)
    (known : (registry.class? ancestor).isSome = true) :
    (registry.class? uri).isSome = true := by
  rcases Relation.ReflTransGen.cases_head below with rfl | ⟨parent, own, -⟩
  · exact known
  · obtain ⟨definition, found, -⟩ := Option.bind_eq_some_iff.1 own
    exact found ▸ rfl

theorem isContainer_iff (keyed : registry.IsKeyed) :
    registry.isContainer uri = true ↔ (registry.class? uri).isSome = true ∧
      ∃ definition ∈ registry.classes, definition.container = true ∧
        registry.isSubclassOf uri definition.uri = true := by
  have found (own : String) (definition : ClassDef) :
      registry.class? own = some definition ↔
        definition ∈ registry.classes ∧ definition.uri = own :=
    Lists.find?_eq_some_iff_of_nodup ClassDef.uri keyed.classes
  simp only [isContainer, List.any_eq_true, Option.any_eq_true]
  constructor
  · rintro ⟨ancestor, above, definition, known, container⟩
    have below : registry.isSubclassOf uri ancestor = true := List.contains_iff_mem.2 above
    obtain ⟨listed, rfl⟩ := (found _ _).1 known
    exact ⟨isSome_class?_of_extends (isSubclassOf_iff_extends.1 below) (known ▸ rfl),
      definition, listed, container, below⟩
  · rintro ⟨-, definition, listed, container, below⟩
    exact ⟨definition.uri, List.contains_iff_mem.1 below, definition,
      (found _ _).2 ⟨listed, rfl⟩, container⟩

/-- The URIs below another one are listed in ascending order, each once, with or without that one
itself. -/
structure ListsBelow (below : Bool → List String) (root : String) (isBelow : String → Prop) :
    Prop where
  ascending : (below true).Pairwise (· < ·)
  complete : ∀ uri, uri ∈ below true ↔ isBelow uri
  withoutRoot : below false = (below true).filter (· != root)

theorem listsBelow_descendants {edges : List (String × Option String)}
    (distinct : (edges.map (·.1)).Nodup) (root : String) :
    ListsBelow (descendants edges root) root (Descends edges root) where
  ascending := pairwise_descendants distinct true
  complete uri := by simp [mem_descendants]
  withoutRoot := descendants_false distinct

/-- Hierarchies look the same from above and from below. -/
structure HierarchiesAgree (registry : Registry) : Prop where
  subclasses : ∀ ancestor, ListsBelow (registry.subclasses ancestor) ancestor fun uri =>
    registry.isSubclassOf uri ancestor = true
  subclass : ∀ uri ancestor, registry.isSubclassOf uri ancestor = true ↔
    registry.Extends uri ancestor
  container : ∀ uri, registry.isContainer uri = true ↔ (registry.class? uri).isSome = true ∧
    ∃ definition ∈ registry.classes, definition.container = true ∧
      registry.isSubclassOf uri definition.uri = true
  subproperties : ∀ property, ListsBelow (registry.subproperties property) property fun uri =>
    registry.Refines uri property
  /-- Going up comes to an end: taking more steps than there are classes finds no other ancestor. -/
  upwardEnds : ∀ steps, registry.classes.length ≤ steps → ∀ uri ancestor,
    ancestor ∈ registry.lineageWithin steps uri ↔ ancestor ∈ registry.lineage uri
  /-- Going down comes to an end: there are no more generations than edges. -/
  downwardEnds : ∀ (edges : List (String × Option String)) (root : String) (steps : Nat),
    edges.length ≤ steps →
      generations edges steps [root] = generations edges edges.length [root]

/-- Two classes in a circle, one of them a container, and one below them; a class that extends
itself, a class whose parent is not registered, and a property that refines itself. -/
def tangled : Registry :=
  [⟨"urn:a", some "urn:b", "urn:o", false⟩, ⟨"urn:b", some "urn:a", "urn:o", true⟩,
    ⟨"urn:c", some "urn:a", "urn:o", false⟩, ⟨"urn:self", some "urn:self", "urn:o", false⟩,
    ⟨"urn:lost", some "urn:gone", "urn:o", false⟩].foldl addClass
      (core.addProperty ⟨"urn:p", .string, false, some "urn:p", "urn:o"⟩)

end Both

end Registry

end GraphSegments
