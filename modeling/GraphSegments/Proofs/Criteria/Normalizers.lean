import GraphSegments.Criteria.Normalizer
import GraphSegments.Proofs.Criteria.Stability
import GraphSegments.Proofs.Dictionaries

/-!
What a normalizer remembers cannot be observed. It remembers nothing but what it would look up
again, so it brings every tree of criteria into the normal form that a fresh one would.
-/

namespace GraphSegments
open Results

namespace Dictionary

variable {α : Type} {known : Dictionary α} {lookUp : String → Except Error α}

/-- A dictionary that has nothing but what look-ups give. -/
def Recalls (known : Dictionary α) (lookUp : String → Except Error α) : Prop :=
  ∀ key value, known.find? key = some value → lookUp key = .ok value

theorem recalls_empty (lookUp : String → Except Error α) : Recalls ∅ lookUp := by
  intro key value found
  cases found

/-- It does not matter whether something is remembered or looked up, then or later. -/
theorem Recalls.recall (recalls : known.Recalls lookUp) (key : String) :
    (known.recall key (lookUp key)).1 = lookUp key ∧
      (known.recall key (lookUp key)).2.Recalls lookUp := by
  unfold Dictionary.recall
  split
  next value found => exact ⟨(recalls key value found).symm, recalls⟩
  next =>
    split
    next error missing => exact ⟨missing.symm, recalls⟩
    next value given =>
      refine ⟨given.symm, fun other kept found => ?_⟩
      rw [find?_insert] at found
      split at found
      next same => rw [← same, given, Option.some.inj found]
      next => exact recalls other kept found

end Dictionary

/-! Spelling out asks for descendants once, and makes a criterion of them. -/

theorem TypeCriterion.spellOut_eq (registry : Registry) (criterion : TypeCriterion) :
    criterion.spellOut registry =
      if criterion.expand then
        if criterion.comparator.takesList then .error (.query .expandsTypeList)
        else
          match criterion.types with
          | [type] => registry.classesBelow type >>= fun below => return criterion.spelled below
          | _ => .error (.query .expandsSeveralTypes)
      else .ok criterion := by
  obtain ⟨types, comparator, expand, negated⟩ := criterion
  unfold spellOut Registry.classesBelow
  match types with
  | [] | _ :: _ :: _ => rfl
  | [type] =>
    dsimp only
    cases registry.class? type with
    | none => rfl
    | some definition =>
      unfold spelled
      dsimp only
      rw [ok_bind]
      cases below : registry.subclasses type true with
      | nil => rfl
      | cons first rest => cases rest <;> rfl

theorem PropertyCriterion.spellOut_eq (registry : Registry) (criterion : PropertyCriterion) :
    criterion.spellOut registry =
      if criterion.expand then
        registry.propertiesBelow criterion.property >>= fun below => return criterion.spelled below
      else .ok criterion := by
  unfold spellOut Registry.propertiesBelow
  split
  next =>
    cases registry.property? criterion.property with
    | none => rfl
    | some definition =>
      rw [ok_bind]
      unfold spelled
      cases below : registry.subproperties criterion.property true with
      | nil => rfl
      | cons first rest => cases rest <;> rfl
  next => rfl

namespace Normalizer

/-- A normalizer that remembers nothing but what the registry knows. -/
structure IsSound (known : Registry) (normalizer : Normalizer) : Prop where
  registry : normalizer.registry = known
  classes : normalizer.classes.Recalls known.classesBelow
  properties : normalizer.properties.Recalls known.propertiesBelow

theorem isSound_fresh (registry : Registry) : IsSound registry (fresh registry) :=
  ⟨rfl, Dictionary.recalls_empty _, Dictionary.recalls_empty _⟩

variable {registry : Registry} {α β : Type}

/-- A step that comes to a result, whatever has been remembered, and remembers nothing wrong. -/
def Computes (registry : Registry) (step : Normalizing α) (result : Except Error α) : Prop :=
  ∀ normalizer, IsSound registry normalizer →
    (step.run.run normalizer).1 = result ∧ IsSound registry (step.run.run normalizer).2

theorem computes_pure (value : α) : Computes registry (pure value) (.ok value) :=
  fun _ sound => ⟨rfl, sound⟩

theorem computes_throw (error : Error) :
    Computes registry (throw error : Normalizing α) (.error error) := fun _ sound => ⟨rfl, sound⟩

theorem computes_lift (result : Except Error α) :
    Computes registry (ExceptT.mk (pure result)) result := fun _ sound => ⟨rfl, sound⟩

theorem Computes.bind {step : Normalizing α} {result : Except Error α}
    {next : α → Normalizing β} {later : α → Except Error β}
    (first : Computes registry step result)
    (rest : ∀ value, Computes registry (next value) (later value)) :
    Computes registry (step >>= next) (result >>= later) := by
  intro normalizer sound
  obtain ⟨same, left⟩ := first normalizer sound
  have continued : (step >>= next).run.run normalizer =
      (ExceptT.bindCont next (step.run.run normalizer).1).run (step.run.run normalizer).2 := rfl
  rw [continued, same]
  cases result with
  | error error => exact ⟨rfl, left⟩
  | ok value => exact rest value _ left

theorem computes_get {next : Normalizer → Normalizing β} {result : Except Error β}
    (rest : ∀ normalizer, IsSound registry normalizer →
      Computes registry (next normalizer) result) :
    Computes registry (get >>= next) result :=
  fun normalizer sound => rest normalizer sound normalizer sound

theorem computes_classesBelow (type : String) :
    Computes registry (classesBelow type) (registry.classesBelow type) := by
  intro normalizer sound
  obtain ⟨rfl, classes, properties⟩ := sound
  obtain ⟨same, kept⟩ := classes.recall type
  exact ⟨same, rfl, kept, properties⟩

theorem computes_propertiesBelow (property : String) :
    Computes registry (propertiesBelow property) (registry.propertiesBelow property) := by
  intro normalizer sound
  obtain ⟨rfl, classes, properties⟩ := sound
  obtain ⟨same, kept⟩ := properties.recall property
  exact ⟨same, rfl, classes, kept⟩

theorem computes_spellOutType (criterion : TypeCriterion) :
    Computes registry (spellOutType criterion) (criterion.spellOut registry) := by
  rw [TypeCriterion.spellOut_eq]
  obtain ⟨types, comparator, expand, negated⟩ := criterion
  unfold spellOutType
  split
  next =>
    split
    next => exact computes_throw _
    next =>
      match types with
      | [] | _ :: _ :: _ => exact computes_throw _
      | [type] => exact (computes_classesBelow type).bind fun _ => computes_pure _
  next => exact computes_pure _

theorem computes_spellOutProperty (criterion : PropertyCriterion) :
    Computes registry (spellOutProperty criterion) (criterion.spellOut registry) := by
  rw [PropertyCriterion.spellOut_eq]
  unfold spellOutProperty
  split
  next => exact (computes_propertiesBelow _).bind fun _ => computes_pure _
  next => exact computes_pure criterion

theorem computes_spellOut (criterion : Criterion) :
    Computes registry (spellOut criterion) (criterion.spellOut registry) := by
  cases criterion with
  | property criterion => exact (computes_spellOutProperty criterion).bind fun _ => computes_pure _
  | type criterion => exact (computes_spellOutType criterion).bind fun _ => computes_pure _

mutual

theorem computes_spellOutElement (element : Element) :
    Computes registry (spellOutElement element)
      (element.traverse (Criterion.spellOut registry)) := by
  match element with
  | .leaf criterion =>
    rw [spellOutElement]
    exact (computes_spellOut criterion).bind fun _ => computes_pure _
  | .nested connective elements =>
    rw [spellOutElement]
    exact (computes_spellOutAll elements).bind fun _ => computes_pure _

theorem computes_spellOutAll (elements : List Element) :
    Computes registry (spellOutAll elements)
      (Element.traverseAll (Criterion.spellOut registry) elements) := by
  match elements with
  | [] => exact computes_pure _
  | element :: rest =>
    rw [spellOutAll]
    exact (computes_spellOutElement element).bind fun _ =>
      (computes_spellOutAll rest).bind fun _ => computes_pure _

end

/-- A normalizer that remembers nothing wrong brings criteria into their normal form, and remembers
nothing wrong after that. -/
theorem computes_normal (container : Container) :
    Computes registry (normal container) (container.normalize registry) := by
  refine computes_get fun normalizer sound => ?_
  rw [sound.registry]
  exact (computes_lift _).bind fun resolved =>
    (computes_spellOutAll resolved).bind fun _ => computes_pure _

theorem isSound_afterAll {normalizer : Normalizer} (sound : IsSound registry normalizer)
    (containers : List Container) : IsSound registry (normalizer.afterAll containers) := by
  induction containers generalizing normalizer with
  | nil => exact sound
  | cons container rest ih => exact ih (computes_normal container normalizer sound).2

/-- Whatever a normalizer has been used for, it brings criteria into the normal form that a fresh
one brings them into. They are in normal form then, and have themselves as normal form. -/
theorem normalize_afterAll (registry : Registry) (earlier : List Container) (raw : Container) :
    (((fresh registry).afterAll earlier).normalize raw).1 = raw.normalize registry ∧
      ((fresh registry).normalize raw).1 = raw.normalize registry ∧
      ∀ normal, raw.normalize registry = .ok normal →
        normal.InNormalForm ∧ normal.normalize registry = .ok normal := by
  have sound := isSound_fresh registry
  have used := isSound_afterAll sound earlier
  exact ⟨(computes_normal raw _ used).1, (computes_normal raw _ sound).1,
    fun _ => Container.inNormalForm_of_normalize⟩

/-- A class is spelled out again after it has been, and after another tree had no normal form. -/
theorem normalize_afterAll_subclass :
    let registry := (Registry.core.addClass ⟨"urn:animal", none, "urn:zoo", false⟩).addClass
      ⟨"urn:bird", some "urn:animal", "urn:zoo", false⟩
    let raw : Container :=
      ⟨.or, [.nested .and [.leaf (.type ⟨["urn:animal"], .eq, true, true⟩), .leaf (.property
        ⟨Vocabulary.uriPseudo, .eq, some (.single (.uri "urn:b")), true, false, []⟩)]]⟩
    let normal : Container :=
      ⟨.and, [.leaf (.type ⟨["urn:animal", "urn:bird"], .noneOf, false, false⟩),
        .leaf (.property
          ⟨Vocabulary.uriProperty, .ne, some (.single (.uri "urn:b")), false, false, []⟩)]⟩
    let failing : Container := ⟨.and, [.leaf (.type ⟨["urn:bird", "urn:bird"], .eq, true, false⟩)]⟩
    raw.normalize registry = .ok normal ∧
      (((fresh registry).afterAll [raw, failing]).normalize raw).1 = .ok normal ∧
      normal.InNormalForm ∧ normal.normalize registry = .ok normal := by
  intro registry raw normal failing
  have listed : registry.subclasses "urn:animal" true = ["urn:animal", "urn:bird"] :=
    List.mergeSort_of_pairwise (by decide +kernel)
  have spelledOut : TypeCriterion.spellOut registry ⟨["urn:animal"], .ne, true, false⟩ =
      .ok ⟨["urn:animal", "urn:bird"], .noneOf, false, false⟩ := by
    rw [TypeCriterion.spellOut]
    simp only [listed]
    rfl
  have normalized : raw.normalize registry = .ok normal := by
    have resolved : Element.traverseAll (Criterion.resolve registry) raw.elements =
        .ok [.nested .and [.leaf (.type ⟨["urn:animal"], .ne, true, false⟩), .leaf (.property
          ⟨Vocabulary.uriProperty, .ne, some (.single (.uri "urn:b")), false, false, []⟩)]] := rfl
    simp only [Container.normalize, resolved, ok_bind, Element.traverseAll, Element.traverse,
      Criterion.spellOut, spelledOut]
    rfl
  obtain ⟨used, -, stable⟩ := normalize_afterAll registry [raw, failing] raw
  exact ⟨normalized, used.trans normalized, stable normal normalized⟩

end Normalizer

end GraphSegments
