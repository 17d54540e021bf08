import GraphSegments.Proofs.Table.Grouping
import GraphSegments.Proofs.Table.Writing

/-!
The rows of an object by property. Names of different versions come together when they are written
in the current vocabulary, so the rows of an object are coherent exactly if properties that come
together are multi-valued.
-/

namespace GraphSegments
open Results

namespace GraphObject

/-- If two properties come together in the current vocabulary, both are multi-valued, unless one of
them holds no value. -/
def AgreeTogether (a b : String × PropertyValue) : Prop :=
  versionless a.1 = versionless b.1 → a.2.values ≠ [] → b.2.values ≠ [] →
    a.2.isMulti = true ∧ b.2.isMulti = true

instance (a b : String × PropertyValue) : Decidable (AgreeTogether a b) :=
  inferInstanceAs (Decidable (_ = _ → _ ≠ [] → _ ≠ [] → _ = true ∧ _ = true))

theorem AgreeTogether.symm {a b : String × PropertyValue} (agree : AgreeTogether a b) :
    AgreeTogether b a :=
  fun together left right => (agree together.symm right left).symm

/-- All properties that come together agree. Properties that are not written do not count. -/
def IsUnambiguous (object : GraphObject) : Prop :=
  object.properties.entries.Pairwise fun a b =>
    Vocabulary.isStructural (versionless a.1) = false → AgreeTogether a b

instance (object : GraphObject) : Decidable object.IsUnambiguous :=
  inferInstanceAs (Decidable (List.Pairwise _ _))

/-- Different names that stay different are unambiguous. -/
theorem isUnambiguous_of_current {object : GraphObject}
    (current : ∀ entry ∈ object.properties.entries, versionless entry.1 = entry.1) :
    object.IsUnambiguous := by
  refine object.properties.ascending.imp_of_mem fun {a b} left right below _ together => ?_
  rw [current a left, current b right] at together
  exact absurd (together ▸ below) (String.lt_irrefl _)

/-- What is written first, whatever the properties. -/
def describing (object : GraphObject) : List (String × PropertyValue) :=
  [(Vocabulary.vitaltype, .single (.uri object.vitaltype)),
    (Vocabulary.types, .multi (object.types.map .uri)),
    (Vocabulary.uriProperty, .single (.uri object.uri))]

end GraphObject

/-- What is written last: the ontology with which an object is written, and its version. -/
def OntologyDef.describing (ontology : OntologyDef) : List (String × PropertyValue) :=
  [(Vocabulary.hasOntologyIri, .single (.uri ontology.uri)),
    (Vocabulary.hasVersionIri, .single (.string ontology.version.text))]

namespace GraphObject

/-- What is written under structural names. -/
def structuralEntries (object : GraphObject) (ontology : OntologyDef) :
    List (String × PropertyValue) :=
  object.describing ++ ontology.describing

variable {registry : Registry} {object : GraphObject} {ontology : OntologyDef}

theorem keys_structuralEntries :
    (object.structuralEntries ontology).map (·.1) = Vocabulary.structural := rfl

theorem entries_eq :
    object.entries ontology = object.describing ++ (object.properties.entries.filter fun entry =>
      !Vocabulary.isStructural (versionless entry.1)) ++ ontology.describing := rfl

theorem mem_entries {entry : String × PropertyValue} :
    entry ∈ object.entries ontology ↔ entry ∈ object.structuralEntries ontology ∨
      entry ∈ object.properties.entries ∧
        Vocabulary.isStructural (versionless entry.1) = false := by
  simp only [entries_eq, structuralEntries, List.mem_append, List.mem_filter, Bool.not_eq_true']
  tauto

theorem isStructural_of_mem_structuralEntries {entry : String × PropertyValue}
    (listed : entry ∈ object.structuralEntries ontology) :
    Vocabulary.isStructural entry.1 = true := by
  have key : entry.1 ∈ (object.structuralEntries ontology).map (·.1) :=
    List.mem_map_of_mem listed
  rwa [keys_structuralEntries, ← List.contains_iff_mem] at key

theorem filter_structuralEntries (name : String) :
    (object.structuralEntries ontology).filter (fun entry => versionless entry.1 == name) =
      (object.structuralEntries ontology).filter (·.1 == name) := by
  apply List.filter_congr
  intro entry listed
  rw [versionless_of_isStructural (isStructural_of_mem_structuralEntries listed)]

theorem named_flatMap_rowsOfEntry (name : String) (written : List (String × PropertyValue)) :
    Row.named name (written.flatMap fun entry => rowsOfEntry registry object entry.1 entry.2) =
      (written.filter fun entry => versionless entry.1 == name).flatMap fun entry =>
        rowsOfEntry registry object entry.1 entry.2 := by
  induction written with
  | nil => rfl
  | cons entry rest ih =>
    have own : ∀ row ∈ rowsOfEntry registry object entry.1 entry.2,
        row.name = versionless entry.1 := by
      intro row member
      obtain ⟨value, -, rfl⟩ := mem_rowsOfEntry.1 member
      rfl
    rw [List.flatMap_cons, Row.named, List.filter_append, ← Row.named, ← Row.named, ih]
    by_cases same : versionless entry.1 = name
    · have all : Row.named name (rowsOfEntry registry object entry.1 entry.2) =
          rowsOfEntry registry object entry.1 entry.2 :=
        List.filter_eq_self.2 fun row member => by simp [own row member, same]
      rw [all, List.filter_cons_of_pos (by simpa using same), List.flatMap_cons]
    · have none : Row.named name (rowsOfEntry registry object entry.1 entry.2) = [] :=
        List.filter_eq_nil_iff.2 fun row member => by simp [own row member, same]
      rw [none, List.filter_cons_of_neg (by simpa using same), List.nil_append]

theorem coherent_rowsOfEntry {name : String} (held : PropertyValue) :
    Row.Coherent (rowsOfEntry registry object name held) := by
  rw [Row.Coherent, rowsOfEntry, List.pairwise_map]
  cases held with
  | single value => exact List.pairwise_singleton _ _
  | multi values => exact List.pairwise_of_forall fun _ _ _ _ => ⟨rfl, rfl⟩

/-- The rows of two entries go together exactly if the entries do. -/
theorem coherent_rowsOfEntries {a b : String × PropertyValue} :
    (∀ x ∈ rowsOfEntry registry object a.1 a.2, ∀ y ∈ rowsOfEntry registry object b.1 b.2,
      x.uri = y.uri → x.name = y.name → x.multi = true ∧ y.multi = true) ↔
        AgreeTogether a b := by
  constructor
  · intro coherent together left right
    obtain ⟨x, listed⟩ := List.exists_mem_of_ne_nil _ left
    obtain ⟨y, other⟩ := List.exists_mem_of_ne_nil _ right
    exact coherent _ (mem_rowsOfEntry.2 ⟨x, listed, rfl⟩) _ (mem_rowsOfEntry.2 ⟨y, other, rfl⟩)
      rfl together
  · intro agree x listed y other _ together
    obtain ⟨value, held, rfl⟩ := mem_rowsOfEntry.1 listed
    obtain ⟨value', held', rfl⟩ := mem_rowsOfEntry.1 other
    exact agree together (List.ne_nil_of_mem held) (List.ne_nil_of_mem held')

/-- Structural entries never come together with another entry. -/
theorem pairwise_agreeTogether_entries :
    (object.entries ontology).Pairwise AgreeTogether ↔ object.IsUnambiguous := by
  have structural {entry : String × PropertyValue}
      (listed : entry ∈ object.structuralEntries ontology) :
      Vocabulary.isStructural (versionless entry.1) = true := by
    have structural := isStructural_of_mem_structuralEntries listed
    rwa [versionless_of_isStructural structural]
  have apart : (object.structuralEntries ontology).Pairwise AgreeTogether := by
    have distinct : ((object.structuralEntries ontology).map (·.1)).Nodup := by
      rw [keys_structuralEntries]
      decide
    refine (List.pairwise_map.1 distinct).imp_of_mem fun {a b} left right differs together => ?_
    rw [versionless_of_isStructural (isStructural_of_mem_structuralEntries left),
      versionless_of_isStructural (isStructural_of_mem_structuralEntries right)] at together
    exact absurd together differs
  have arranged : (object.entries ontology).Perm (object.structuralEntries ontology ++
      object.properties.entries.filter fun entry =>
        !Vocabulary.isStructural (versionless entry.1)) := by
    rw [entries_eq, structuralEntries, List.append_assoc, List.append_assoc]
    exact List.perm_append_comm.append_left _
  rw [arranged.pairwise_iff fun {_ _} => AgreeTogether.symm, List.pairwise_append,
    List.pairwise_filter, IsUnambiguous]
  constructor
  · intro agree
    refine agree.2.1.imp fun {a b} agree plain together left right => ?_
    exact agree (by simpa using plain) (by simpa [← together] using plain) together left right
  · intro unambiguous
    refine ⟨apart, unambiguous.imp fun {a b} agree plain _ => agree (by simpa using plain), ?_⟩
    intro entry listed other plain together
    have plain := (List.mem_filter.1 plain).2
    rw [← together, structural listed] at plain
    exact absurd plain (by simp)

section Written

variable {rows : List Row}
  (made : (object.entries ontology).flatMap (fun entry =>
    rowsOfEntry registry object entry.1 entry.2) = rows)
include made

/-- Under the name of a structural entry stands that entry alone. -/
theorem named_of_isStructural {name : String} {held : PropertyValue}
    (listed : (name, held) ∈ object.structuralEntries ontology) :
    Row.named name rows = rowsOfEntry registry object name held := by
  have structural := isStructural_of_mem_structuralEntries listed
  have others : (object.properties.entries.filter fun entry =>
      !Vocabulary.isStructural (versionless entry.1)).filter
        (fun entry => versionless entry.1 == name) = [] := by
    rw [List.filter_filter, List.filter_eq_nil_iff]
    intro entry _
    by_cases same : versionless entry.1 = name <;> simp [same, structural]
  have alone : (object.structuralEntries ontology).filter
      (fun entry => versionless entry.1 == name) = [(name, held)] := by
    rw [filter_structuralEntries]
    exact Dictionary.filter_eq_singleton (by rw [keys_structuralEntries]; decide) listed
  rw [structuralEntries, List.filter_append] at alone
  rw [← made, named_flatMap_rowsOfEntry, entries_eq, List.filter_append, List.filter_append, others,
    List.append_nil, alone, List.flatMap_singleton]

/-- Under any other name stand the properties that come together there. -/
theorem named_of_plain {name : String} (plain : Vocabulary.isStructural name = false) :
    Row.named name rows =
      (object.properties.entries.filter fun entry => versionless entry.1 == name).flatMap
        fun entry => rowsOfEntry registry object entry.1 entry.2 := by
  have none : (object.structuralEntries ontology).filter
      (fun entry => versionless entry.1 == name) = [] := by
    rw [filter_structuralEntries, List.filter_eq_nil_iff]
    intro entry listed same
    have same : entry.1 = name := by simpa using same
    exact absurd (same ▸ isStructural_of_mem_structuralEntries listed) (by simp [plain])
  have own : (object.properties.entries.filter fun entry =>
      !Vocabulary.isStructural (versionless entry.1)).filter
        (fun entry => versionless entry.1 == name) =
      object.properties.entries.filter fun entry => versionless entry.1 == name := by
    rw [List.filter_filter]
    apply List.filter_congr
    intro entry _
    by_cases same : versionless entry.1 = name <;> simp [same, plain]
  rw [structuralEntries, List.filter_append, List.append_eq_nil_iff] at none
  rw [← made, named_flatMap_rowsOfEntry, entries_eq, List.filter_append, List.filter_append, own,
    none.1, none.2, List.nil_append, List.append_nil]

/-- The rows of an object are coherent exactly if its properties are unambiguous. -/
theorem coherent_iff_isUnambiguous : Row.Coherent rows ↔ object.IsUnambiguous := by
  rw [← made, Row.Coherent, List.pairwise_flatMap]
  simp only [coherent_rowsOfEntries]
  rw [pairwise_agreeTogether_entries]
  exact and_iff_right fun entry _ => coherent_rowsOfEntry entry.2

end Written

theorem coherent_toRows_iff {rows : List Row} (written : object.toRows registry = .ok rows) :
    Row.Coherent rows ↔ object.IsUnambiguous := by
  obtain ⟨-, _, -, made⟩ := toRows_eq_ok.1 written
  exact coherent_iff_isUnambiguous made

/-- Rows of different objects never go together, so those of several are coherent if those of each
are. -/
theorem coherent_allToRows {objects : List GraphObject} {rows : List Row}
    (distinct : (objects.map (·.uri)).Nodup)
    (unambiguous : ∀ object ∈ objects, object.IsUnambiguous)
    (written : allToRows registry objects = .ok rows) : Row.Coherent rows := by
  induction objects generalizing rows with
  | nil =>
    obtain rfl := Except.ok.inj written
    exact .nil
  | cons object rest ih =>
    obtain ⟨own, first, written⟩ := bind_eq_ok.1 written
    obtain ⟨others, later, written⟩ := bind_eq_ok.1 written
    obtain rfl := Except.ok.inj written
    obtain ⟨new, distinct⟩ := List.nodup_cons.1 distinct
    obtain ⟨here, unambiguous⟩ := List.forall_mem_cons.1 unambiguous
    refine List.pairwise_append.2
      ⟨(coherent_toRows_iff first).2 here, ih distinct unambiguous later, ?_⟩
    intro row mine other theirs same
    obtain ⟨object', listed, own', wrote, member⟩ := (mem_allToRows later).1 theirs
    rw [(repeated_of_mem_toRows first mine).1, (repeated_of_mem_toRows wrote member).1] at same
    exact absurd (List.mem_map.2 ⟨object', listed, same.symm⟩) new

end GraphObject

end GraphSegments
