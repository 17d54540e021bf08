import GraphSegments.Proofs.Criteria.Extents
import GraphSegments.Proofs.Ontology.Descendants
import GraphSegments.Proofs.Search.Columns
import GraphSegments.Proofs.Search.Reading
import Mathlib.Data.Set.Image

/-!
What criteria mean before they are in normal form: a negated criterion has the complementary
comparator, the pseudo property of URIs is the property that holds them, and an expanded class or
property stands for all that descend from it. The normal form means the same to a search.
-/

namespace GraphSegments
open Results

namespace Registry

/-- A class is another one or descends from it. -/
def IsSubclass (registry : Registry) : String → String → Prop :=
  Descends (registry.classes.map fun known => (known.uri, known.parent))

/-- A property is another one or descends from it. -/
def IsSubproperty (registry : Registry) : String → String → Prop :=
  Descends (registry.properties.map fun known => (known.uri, known.parent))

theorem mem_subclasses {registry : Registry} {root uri : String} :
    uri ∈ registry.subclasses root true ↔ registry.IsSubclass root uri := by
  simp [subclasses, IsSubclass, mem_descendants]

theorem mem_subproperties {registry : Registry} {root uri : String} :
    uri ∈ registry.subproperties root true ↔ registry.IsSubproperty root uri := by
  simp [subproperties, IsSubproperty, mem_descendants]

end Registry

section

variable (scope : LeafScope) (patterns : Patterns) (records : List Record)

namespace PropertyCriterion

/-- The properties over which a criterion ranges. -/
def range (registry : Registry) (criterion : PropertyCriterion) : Set String :=
  if criterion.expand then {name | registry.IsSubproperty criterion.property name}
  else {criterion.property}

/-- Whether a record holds the value that a criterion asks for. -/
def Accepts (criterion : PropertyCriterion) (record : Record) : Prop :=
  ∃ demand, criterion.valueCondition? scope = .ok demand ∧
    ∀ condition ∈ demand, condition.holds patterns records record = true

/-- The objects that have such a value of some properties. -/
def holders (criterion : PropertyCriterion) (properties : Set String) : Set String :=
  {uri | ∃ record ∈ records, record.uri = uri ∧ record.name ∈ versionless '' properties ∧
    criterion.Accepts scope patterns records record}

/-- The objects that a criterion without negation means, over some properties: for comparators that
ask what is not there, all objects but those that have it. -/
def objectsOver (criterion : PropertyCriterion) (properties : Set String) : Set String :=
  if criterion.comparator.isSetNegation then
    (criterion.holders scope patterns records properties)ᶜ
  else criterion.holders scope patterns records properties

end PropertyCriterion

namespace TypeCriterion

/-- The classes that a criterion admits or excludes, under the names that rows have. -/
def classes (registry : Registry) (criterion : TypeCriterion) : Set String :=
  if criterion.expand then
    versionless '' {uri | ∃ type ∈ criterion.types, registry.IsSubclass type uri}
  else {name | name ∈ criterion.compared}

/-- The objects that a criterion without negation means: those of some classes, or of others. -/
def objectsOf (criterion : TypeCriterion) (classes : Set String) : Set String :=
  {uri | ∃ record ∈ records, record.uri = uri ∧ record.name = Vocabulary.vitaltype ∧
    (criterion.isInclusive = true ↔ record.vitaltype ∈ classes)}

end TypeCriterion

namespace Criterion

/-- The objects that a criterion without negation means. -/
def affirmedObjects : Criterion → Set String
  | property criterion =>
    criterion.objectsOver scope patterns records (criterion.range scope.registry)
  | type criterion => criterion.objectsOf records (criterion.classes scope.registry)

/-- The objects that a criterion means. -/
def objects (criterion : Criterion) : Set String :=
  criterion.affirmed.affirmedObjects scope patterns records

end Criterion

end

/-- The objects that a search takes a criterion to mean. -/
def Criterion.sought (reading : Reading) (criterion : Criterion) : Set String :=
  {uri | criterion.Matches reading none uri}

/-- A criterion that does not come with the descendants of its property. -/
def Criterion.IsUnexpanded : Criterion → Prop
  | .property criterion => criterion.expanded = []
  | .type _ => True

/-! What a search takes a tree of criteria to mean. -/

section Reading

variable {reading : Reading} {uri : String}

mutual

theorem Element.mem_extent (element : Element) :
    uri ∈ element.extent {uri | reading.known uri} (Criterion.sought reading) ↔
      reading.known uri ∧ element.Matches reading false none uri := by
  match element with
  | .leaf criterion => exact Iff.rfl
  | .nested .and elements =>
    rw [Element.matches_nested]
    exact (Element.mem_meet elements 0).trans (and_congr_right fun _ => by
      simp [Fold.typesWanted, Container.Matches, Container.Joins])
  | .nested .or elements =>
    rw [Element.matches_nested]
    exact (Element.mem_join elements).trans (and_congr_right fun _ => by
      simp [Fold.typesWanted, Container.Matches, Container.Joins])

theorem Element.mem_meet (elements : List Element) (place : Nat) :
    uri ∈ Element.meet {uri | reading.known uri} (Criterion.sought reading) elements ↔
      reading.known uri ∧ Element.MatchesAll reading false none uri place elements := by
  match elements with
  | [] => exact (and_iff_left trivial).symm
  | element :: rest =>
    rw [Element.meet, Set.mem_inter_iff, Element.mem_extent element,
      Element.mem_meet rest (place + 1), Element.MatchesAll]
    simp only [Option.any_none, true_implies]
    exact and_and_left.symm

theorem Element.mem_join (elements : List Element) :
    uri ∈ Element.join {uri | reading.known uri} (Criterion.sought reading) elements ↔
      reading.known uri ∧ Element.MatchesSome reading false uri elements := by
  match elements with
  | [] => exact (and_iff_right_of_imp False.elim).symm
  | element :: rest =>
    rw [Element.join, Set.mem_union, Element.mem_extent element, Element.mem_join rest,
      Element.MatchesSome]
    exact and_or_left.symm

end

/-- What a container denotes to a search are the objects that match it. -/
theorem Container.extent_sought (reading : Reading) (container : Container) :
    container.extent {uri | reading.known uri} (Criterion.sought reading) =
      {uri | reading.known uri ∧ container.Matches reading false uri} := by
  ext uri
  rw [Container.extent, Element.mem_extent, Container.asElement, Element.matches_nested]
  rfl

end Reading

namespace PropertyCriterion

variable {registry : Registry} {criterion : PropertyCriterion}

/-- The names that a criterion is spelled out into are those of the properties over which it
ranges. -/
theorem names_of_spellOut {spelled : PropertyCriterion} (unexpanded : criterion.expanded = [])
    (ran : criterion.spellOut registry = .ok spelled) :
    ∃ expanded, spelled = { criterion with expanded := expanded } ∧
      {name | name ∈ spelled.names} = criterion.range registry := by
  have alone : {name | name ∈ criterion.names} = {criterion.property} := by
    ext name
    simp [names, unexpanded]
  unfold spellOut at ran
  unfold range
  split at ran
  next expand =>
    rw [if_pos expand]
    split at ran
    next => cases ran
    next =>
      split at ran
      next first second rest listed =>
        obtain rfl := Except.ok.inj ran
        refine ⟨_, rfl, ?_⟩
        ext name
        rw [Set.mem_ofPred_eq, Set.mem_ofPred_eq, ← Registry.mem_subproperties, listed]
        rfl
      next few =>
        obtain rfl := Except.ok.inj ran
        refine ⟨criterion.expanded, rfl, alone.trans ?_⟩
        ext name
        exact (Registry.descends_iff_of_alone few).symm
  next single =>
    obtain rfl := Except.ok.inj ran
    exact ⟨criterion.expanded, rfl, by rw [if_neg single, alone]⟩

variable {scope : LeafScope} {patterns : Patterns} {records : List Record}

/-- A search takes a criterion to mean the objects that it means over its names. -/
theorem sought_eq (criterion : PropertyCriterion) :
    (Criterion.property criterion).sought (.ofRecords scope patterns records) =
      criterion.objectsOver scope patterns records {name | name ∈ criterion.names} := by
  have holds (demand : Option Condition) (record : Record) :
      (Condition.all (criterion.nameCondition :: demand.toList)).holds patterns records record =
        true ↔ record.name ∈ versionless '' {name | name ∈ criterion.names} ∧
          ∀ condition ∈ demand, condition.holds patterns records record = true := by
    rw [Condition.holds_all, List.forall_mem_cons, holds_nameCondition]
    simp
  have positive (uri : String) : (Reading.ofRecords scope patterns records).leaf none
      (.property criterion) uri ↔
        uri ∈ criterion.holders scope patterns records {name | name ∈ criterion.names} := by
    constructor
    · rintro ⟨condition, compiled, record, member, own, satisfied⟩
      obtain ⟨demand, demanded, made⟩ := bind_eq_ok.1 compiled
      obtain rfl := Except.ok.inj made
      obtain ⟨named, held⟩ := (holds demand record).1 satisfied
      exact ⟨record, member, own, named, demand, demanded, held⟩
    · rintro ⟨record, member, own, named, demand, demanded, held⟩
      refine ⟨_, bind_eq_ok.2 ⟨demand, demanded, rfl⟩, record, member, own, ?_⟩
      exact (holds demand record).2 ⟨named, held⟩
  ext uri
  unfold Criterion.sought objectsOver
  rw [Set.mem_ofPred_eq, Criterion.Matches, positive]
  change (if criterion.comparator.isSetNegation = true then _ else _) ↔ _
  split <;> rfl

end PropertyCriterion

theorem Comparator.eq_or_ne {comparator : Comparator} (membership : comparator.isMembership = true)
    (single : ¬ comparator.takesList = true) : comparator = .eq ∨ comparator = .ne := by
  cases comparator <;> simp [isMembership, takesList] at *

namespace TypeCriterion

variable {criterion : TypeCriterion}

/-- The classes that a criterion is spelled out into are those that it admits or excludes. -/
theorem compared_of_spellOut {registry : Registry} {spelled : TypeCriterion}
    (normal : criterion.IsNormal) (ran : criterion.spellOut registry = .ok spelled) :
    spelled.isInclusive = criterion.isInclusive ∧
      {name | name ∈ spelled.compared} = criterion.classes registry := by
  unfold spellOut at ran
  unfold classes
  split at ran
  next expand =>
    rw [if_pos expand]
    split at ran
    next => cases ran
    next single =>
      have plain := Comparator.eq_or_ne normal.membership single
      split at ran
      next type named =>
        have descendants : {uri | ∃ type ∈ criterion.types, registry.IsSubclass type uri} =
            {uri | registry.IsSubclass type uri} := by
          ext uri
          simp [named]
        rw [descendants]
        split at ran
        next => cases ran
        next =>
          split at ran
          next first second rest listed =>
            obtain rfl := Except.ok.inj ran
            have admitted : {name | name ∈ (first :: second :: rest).map versionless} =
                versionless '' {uri | registry.IsSubclass type uri} := by
              ext name
              simp only [← listed, Set.mem_ofPred_eq, List.mem_map, Registry.mem_subclasses,
                Set.mem_image]
            rcases plain with equal | unequal
            · rw [if_neg (by simp [equal])]
              exact ⟨by simp [isInclusive, equal], admitted⟩
            · rw [if_pos unequal]
              exact ⟨by rw [isInclusive, isInclusive, unequal]; rfl, admitted⟩
          next few =>
            obtain rfl := Except.ok.inj ran
            have own : {uri | registry.IsSubclass type uri} = {type} := by
              ext uri
              exact Registry.descends_iff_of_alone few
            refine ⟨rfl, ?_⟩
            rw [own, Set.image_singleton]
            ext name
            rcases plain with equal | unequal
            · simp [compared, equal, named, Comparator.takesList]
            · simp [compared, unequal, named, Comparator.takesList]
      next => cases ran
  next affirmed =>
    obtain rfl := Except.ok.inj ran
    exact ⟨rfl, by rw [if_neg affirmed]⟩

variable {scope : LeafScope} {patterns : Patterns} {records : List Record}

/-- A search takes a criterion to mean the objects of the classes that it compares. -/
theorem sought_eq (normal : criterion.IsNormal) :
    (Criterion.type criterion).sought (.ofRecords scope patterns records) =
      criterion.objectsOf records {name | name ∈ criterion.compared} := by
  obtain ⟨condition, compiled⟩ := exists_condition normal
  have holds (record : Record) :
      (Condition.all [.columnIs .name Vocabulary.vitaltype, condition]).holds patterns records
          record = true ↔ record.name = Vocabulary.vitaltype ∧
        (criterion.isInclusive = true ↔ record.vitaltype ∈ criterion.compared) := by
    rw [Condition.holds_all, List.forall_mem_cons, List.forall_mem_singleton,
      holds_condition compiled, Condition.holds_columnIs .name rfl record.cell_name]
  ext uri
  change (∃ condition, _ ∧ _) ↔ _
  rw [Criterion.leafCondition_type compiled scope]
  constructor
  · rintro ⟨_, same, record, member, own, satisfied⟩
    obtain rfl := Except.ok.inj same
    obtain ⟨named, compared⟩ := (holds record).1 satisfied
    exact ⟨record, member, own, named, compared⟩
  · rintro ⟨record, member, own, named, compared⟩
    exact ⟨_, rfl, record, member, own, (holds record).2 ⟨named, compared⟩⟩

end TypeCriterion

namespace Criterion

variable {scope : LeafScope} {patterns : Patterns} {records : List Record}
  {criterion : Criterion}

theorem isUnexpanded_affirmed (unexpanded : criterion.IsUnexpanded) :
    criterion.affirmed.IsUnexpanded := by
  cases criterion with
  | property criterion => exact unexpanded
  | type criterion => exact trivial

/-- Once a criterion is spelled out, a search takes it to mean what it means. -/
theorem sought_of_spellOut {spelled : Criterion} (unexpanded : criterion.IsUnexpanded)
    (normal : criterion.IsNormal) (ran : criterion.spellOut scope.registry = .ok spelled) :
    spelled.sought (.ofRecords scope patterns records) =
      criterion.affirmedObjects scope patterns records := by
  cases criterion with
  | property criterion =>
    obtain ⟨inner, spelledOut, made⟩ := bind_eq_ok.1 ran
    obtain rfl := Except.ok.inj made
    obtain ⟨expanded, rfl, named⟩ := PropertyCriterion.names_of_spellOut unexpanded spelledOut
    rw [PropertyCriterion.sought_eq, named]
    rfl
  | type criterion =>
    obtain ⟨inner, spelledOut, made⟩ := bind_eq_ok.1 ran
    obtain rfl := Except.ok.inj made
    obtain ⟨inclusive, compared⟩ := TypeCriterion.compared_of_spellOut normal spelledOut
    have spelled : inner.IsNormal := TypeCriterion.normal_spellOut normal spelledOut
    rw [TypeCriterion.sought_eq spelled, compared, affirmedObjects, TypeCriterion.objectsOf,
      TypeCriterion.objectsOf, inclusive]

end Criterion

/-- The objects of a table that match criteria in normal form are those that the criteria denote as
they were given. -/
theorem Container.matched_eq_extent {scope : LeafScope} {patterns : Patterns}
    {records : List Record} {raw normal : Container}
    (unexpanded : raw.Every Criterion.IsUnexpanded)
    (normalized : raw.normalize scope.registry = .ok normal) :
    {uri | (∃ record ∈ records, record.uri = uri) ∧
        normal.Matches (.ofRecords scope patterns records) false uri} =
      raw.extent {uri | ∃ record ∈ records, record.uri = uri}
        (Criterion.objects scope patterns records) := by
  obtain ⟨resolved, affirmed, ran⟩ := bind_eq_ok.1 normalized
  obtain ⟨expanded, spelledOut, made⟩ := bind_eq_ok.1 ran
  obtain rfl := Except.ok.inj made
  have normal : Element.EveryAll Criterion.IsNormal resolved :=
    Element.everyAll_traverseAll (fun _ _ _ ran => (Criterion.affirmed_of_resolve ran).2) raw.elements
      (Element.everyAll_of_forall (fun _ => trivial) raw.elements) affirmed
  have unexpanded : Element.EveryAll Criterion.IsUnexpanded resolved :=
    Element.everyAll_traverseAll
      (fun _ _ unexpanded ran =>
        (Criterion.affirmed_of_resolve ran).1 ▸ Criterion.isUnexpanded_affirmed unexpanded)
      raw.elements unexpanded affirmed
  -- The passes are taken back from the last to the first; the two over containers keep what each
  -- criterion is taken to mean, the two over criteria keep the containers.
  let reading := Reading.ofRecords scope patterns records
  let all : Set String := {uri | reading.known uri}
  let lifted := Container.solePart raw.connective (Element.liftAll expanded)
  have unwrapped := @Element.extent_unwrapAll all (Criterion.sought reading)
    lifted.elements
  calc {uri | uri ∈ all ∧ Container.Matches reading false
          { lifted with elements := Element.unwrapAll lifted.elements } uri}
      = Container.extent all (Criterion.sought reading)
          { lifted with elements := Element.unwrapAll lifted.elements } := by
        exact (Container.extent_sought reading _).symm
    _ = lifted.extent all (Criterion.sought reading) :=
        Element.extent_nested_congr unwrapped.1 unwrapped.2
    _ = (Element.nested raw.connective expanded).extent all
          (Criterion.sought reading) :=
        Element.extent_lift (.nested raw.connective expanded)
    _ = (Element.nested raw.connective resolved).extent all
          (Criterion.affirmedObjects scope patterns records) :=
        Element.extent_traverse
          (fun _ _ both ran => Criterion.sought_of_spellOut both.1 both.2 ran)
          (.nested raw.connective resolved) (Element.EveryAll.and resolved unexpanded normal)
          (bind_eq_ok.2 ⟨expanded, spelledOut, rfl⟩)
    _ = raw.extent all (Criterion.objects scope patterns records) :=
        Element.extent_traverse
          (fun _ _ _ ran => by rw [(Criterion.affirmed_of_resolve ran).1]; rfl)
          raw.asElement (Element.everyAll_of_forall (fun _ => trivial) raw.elements)
          (bind_eq_ok.2 ⟨resolved, affirmed, rfl⟩)

/-- Objects of other classes than a class and its subclass, but for one object. -/
theorem Container.matched_eq_extent_subclass :
    let registry := (Registry.core.addClass ⟨"urn:animal", none, "urn:zoo", false⟩).addClass
      ⟨"urn:bird", some "urn:animal", "urn:zoo", false⟩
    let records : List Record :=
      [.ofRow ⟨"urn:a", Vocabulary.vitaltype, "urn:bird", false, none, none, .uri "urn:bird", false,
        none⟩]
    let nestedIn (type : TypeCriterion) (property : PropertyCriterion) : List Element :=
      [.nested .and
        [.nested .or [.leaf (.type type)], .leaf (.property property), .nested .and []]]
    let raw : Container := ⟨.or, nestedIn ⟨["urn:animal"], .eq, true, true⟩
      ⟨Vocabulary.uriPseudo, .eq, some (.single (.uri "urn:b")), true, false, []⟩⟩
    let normal : Container :=
      ⟨.and, [.leaf (.type ⟨["urn:animal", "urn:bird"], .noneOf, false, false⟩),
        .leaf (.property
          ⟨Vocabulary.uriProperty, .ne, some (.single (.uri "urn:b")), false, false, []⟩),
        .nested .and []]⟩
    raw.Every Criterion.IsUnexpanded ∧ raw.normalize registry = .ok normal ∧
      {uri | (∃ record ∈ records, record.uri = uri) ∧
          normal.Matches (.ofRecords ⟨registry, .sqlite⟩ (fun _ _ => false) records) false uri} =
        raw.extent {uri | ∃ record ∈ records, record.uri = uri}
          (Criterion.objects ⟨registry, .sqlite⟩ (fun _ _ => false) records) := by
  intro registry records nestedIn raw normal
  have unexpanded : raw.Every Criterion.IsUnexpanded :=
    ⟨⟨⟨trivial, trivial⟩, rfl, trivial, trivial⟩, trivial⟩
  have listed : registry.subclasses "urn:animal" true = ["urn:animal", "urn:bird"] :=
    List.mergeSort_of_pairwise (by decide +kernel)
  let affirmed : PropertyCriterion :=
    ⟨Vocabulary.uriProperty, .ne, some (.single (.uri "urn:b")), false, false, []⟩
  have resolved : Element.traverseAll (Criterion.resolve registry) raw.elements =
      .ok (nestedIn ⟨["urn:animal"], .ne, true, false⟩ affirmed) := rfl
  have spelledOut : TypeCriterion.spellOut registry ⟨["urn:animal"], .ne, true, false⟩ =
      .ok ⟨["urn:animal", "urn:bird"], .noneOf, false, false⟩ := by
    rw [TypeCriterion.spellOut]
    simp only [listed]
    rfl
  have expanded : Element.traverseAll (Criterion.spellOut registry)
      (nestedIn ⟨["urn:animal"], .ne, true, false⟩ affirmed) =
        .ok (nestedIn ⟨["urn:animal", "urn:bird"], .noneOf, false, false⟩ affirmed) := by
    simp only [nestedIn, Element.traverseAll, Element.traverse, Criterion.spellOut, spelledOut]
    rfl
  have normalized : raw.normalize registry = .ok normal :=
    bind_eq_ok.2 ⟨_, resolved, bind_eq_ok.2 ⟨_, expanded, rfl⟩⟩
  exact ⟨unexpanded, normalized, matched_eq_extent unexpanded normalized⟩

end GraphSegments
