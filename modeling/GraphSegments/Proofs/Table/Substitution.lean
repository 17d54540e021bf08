import GraphSegments.Proofs.Table.Grouping
import GraphSegments.Proofs.Table.Reading

/-!
Rows whose stored values are replaced one by one. Where the texts in the columns stay and what could
be read still can, the rows are grouped alike and read as an object of the same class and version.
-/

namespace GraphSegments
open Results

variable (change : Value × Option String → Value × Option String)

/-- A row with another stored value. -/
def Row.withStored (row : Row) : Row :=
  let stored := change (row.value, row.fullText)
  { row with value := stored.1, fullText := stored.2 }

/-- The rows of a property with other stored values. -/
def PropertyRows.withStored (rows : PropertyRows) : PropertyRows :=
  { rows with values := rows.values.map change }

/-- The rows of an object with other stored values. -/
def PropertyRows.allWithStored (grouped : Dictionary PropertyRows) : Dictionary PropertyRows :=
  grouped.map fun _ => withStored change

namespace PropertyRows

theorem named_withStored (name : String) (rows : List Row) :
    Row.named name (rows.map (Row.withStored change)) =
      (Row.named name rows).map (Row.withStored change) := by
  rw [Row.named, List.filter_map]
  rfl

theorem ofRows?_withStored (rows : List Row) :
    ofRows? (rows.map (Row.withStored change)) = (ofRows? rows).map (withStored change) := by
  cases rows with
  | nil => rfl
  | cons first rest => simp [ofRows?, withStored, Row.withStored]

/-- Rows with other stored values are grouped alike. -/
theorem Stands.withStored {uri : String} {rows : List Row} {grouped : Dictionary PropertyRows}
    (stands : Stands uri rows grouped) :
    Stands uri (rows.map (Row.withStored change)) (allWithStored change grouped) where
  uris := by
    intro row listed
    obtain ⟨old, member, rfl⟩ := List.mem_map.1 listed
    exact stands.uris old member
  coherent := List.pairwise_map.2 stands.coherent
  found name := by
    rw [allWithStored, Dictionary.find?_map, stands.found, named_withStored, ofRows?_withStored]

section Texts

variable {change} (texts : ∀ stored, (change stored).1.text? = stored.1.text?)
include texts

theorem firstText?_withStored (grouped : Dictionary PropertyRows) (name : String) :
    firstText? (allWithStored change grouped) name = firstText? grouped name := by
  rw [firstText?, allWithStored, Dictionary.find?_map, firstText?]
  cases grouped.find? name with
  | none => rfl
  | some rows => cases values : rows.values <;> simp [PropertyRows.withStored, values, texts]

theorem reconcile_withStored (registry : Registry) (enforcement : Enforcement) (uri : String)
    (grouped : Dictionary PropertyRows) :
    reconcile registry enforcement uri (allWithStored change grouped) =
      reconcile registry enforcement uri grouped := by
  simp only [reconcile, firstText?_withStored texts]

theorem listedTypes_withStored (namespaces : Option (Dictionary String)) (rows : PropertyRows) :
    ReadingScope.listedTypes namespaces (rows.withStored change) =
      ReadingScope.listedTypes namespaces rows := by
  simp only [ReadingScope.listedTypes, PropertyRows.withStored, List.filterMap_map,
    Function.comp_def, texts]

end Texts

end PropertyRows

namespace ReadingScope

variable {change}

/-- Rows that read as an object read as one of the same class where their stored values are
replaced. -/
theorem readGrouped_withStored {registry : Registry} {options : ReadOptions} {mode : Overflow.Mode}
    {uri : String} {grouped : Dictionary PropertyRows} {decoded : DecodedObject}
    (texts : ∀ stored, (change stored).1.text? = stored.1.text?)
    (reads : ∀ stored, options.overflow.CanRead stored → mode.CanRead (change stored))
    (read : readGrouped registry options uri grouped = .ok (.ok decoded)) :
    ∃ namespaces vitaltype types,
      reconcile registry options.enforcement uri grouped = .ok namespaces ∧
      (ofClass registry options uri namespaces vitaltype).taken
        ⟨⟨uri, vitaltype, types, ∅⟩, []⟩ grouped.entries = decoded ∧
      readGrouped registry { options with overflow := mode } uri
          (PropertyRows.allWithStored change grouped) =
        .ok (.ok ((ofClass registry { options with overflow := mode } uri namespaces
          vitaltype).taken ⟨⟨uri, vitaltype, types, ∅⟩, []⟩
            (PropertyRows.allWithStored change grouped).entries)) := by
  obtain ⟨storedType, typeRows, namespaces, typed, listed, reconciled, registered, allowed, taken⟩ :=
    readGrouped_eq_ok.1 read
  refine ⟨namespaces, _, _, reconciled, taken, readGrouped_eq_ok.2 ⟨storedType,
    typeRows.withStored change, namespaces, ?_, ?_, ?_, registered, ?_, ?_⟩⟩
  · rw [PropertyRows.firstText?_withStored texts, typed]
  · rw [PropertyRows.allWithStored, Dictionary.find?_map, listed]
    rfl
  · rw [PropertyRows.reconcile_withStored texts, reconciled]
  · intro entry member
    obtain ⟨old, inside, rfl⟩ := List.mem_map.1 member
    refine (allowed old inside).of_cardinality rfl id fun values one stored => ?_
    obtain ⟨before, held, rfl⟩ := List.mem_map.1 stored
    exact reads before (values before held)
  · rw [PropertyRows.listedTypes_withStored texts]

/-- Where the same can be read of a stored value and of the one in its place, replacing them makes
no difference to whether there is an object. -/
theorem exists_readGrouped_withStored {registry : Registry} {options : ReadOptions} {uri : String}
    {grouped : Dictionary PropertyRows}
    (texts : ∀ stored, (change stored).1.text? = stored.1.text?)
    (reads : ∀ stored, options.overflow.CanRead (change stored) ↔ options.overflow.CanRead stored) :
    (∃ decoded, readGrouped registry options uri (PropertyRows.allWithStored change grouped) =
      .ok (.ok decoded)) ↔ ∃ decoded, readGrouped registry options uri grouped = .ok (.ok decoded) := by
  constructor
  · intro read
    obtain ⟨_, storedType, typeRows, namespaces, typed, listed, reconciled, registered, allowed, -⟩ :=
      read.imp fun _ => readGrouped_eq_ok.1
    rw [PropertyRows.firstText?_withStored texts] at typed
    rw [PropertyRows.reconcile_withStored texts] at reconciled
    rw [PropertyRows.allWithStored, Dictionary.find?_map, Option.map_eq_some_iff] at listed
    obtain ⟨old, listed, -⟩ := listed
    refine ⟨_, readGrouped_eq_ok.2
      ⟨storedType, old, namespaces, typed, listed, reconciled, registered, ?_, rfl⟩⟩
    intro entry member
    refine (allowed (entry.1, entry.2.withStored change)
      (List.mem_map_of_mem member)).of_cardinality rfl id fun values one stored => ?_
    exact (reads one).1 (values _ (List.mem_map_of_mem stored))
  · intro read
    obtain ⟨decoded, read⟩ := read
    obtain ⟨_, _, _, -, -, changed⟩ :=
      readGrouped_withStored texts (fun stored => (reads stored).2) read
    exact ⟨_, changed⟩

end ReadingScope

/-- Rows that can be grouped read as an object exactly if the groups do. -/
theorem DecodedObject.exists_ofRows_iff {registry : Registry} {options : ReadOptions} {uri : String}
    {rows : List Row} {grouped : Dictionary PropertyRows}
    (stands : PropertyRows.Stands uri rows grouped) (some : rows ≠ []) :
    (∃ decoded, ofRows registry options rows = .ok (.some decoded)) ↔
      ∃ decoded, ReadingScope.readGrouped registry options uri grouped = .ok (.ok decoded) := by
  cases rows with
  | nil => exact absurd rfl some
  | cons first rest =>
    obtain rfl : first.uri = uri := stands.uris first List.mem_cons_self
    have made := PropertyRows.group_eq_ok.2 stands
    simp [ofRows_eq_some, made]

/-- Rows read as an object exactly if they do with other stored values of which the same can be
read. -/
theorem DecodedObject.exists_ofRows_withStored {registry : Registry} {options : ReadOptions}
    {uri : String} {rows : List Row} {grouped : Dictionary PropertyRows} {change}
    (stands : PropertyRows.Stands uri rows grouped) (some : rows ≠ [])
    (texts : ∀ stored, (change stored).1.text? = stored.1.text?)
    (reads : ∀ stored, options.overflow.CanRead (change stored) ↔ options.overflow.CanRead stored) :
    (∃ decoded, ofRows registry options (rows.map (Row.withStored change)) = .ok (.some decoded)) ↔
      ∃ decoded, ofRows registry options rows = .ok (.some decoded) := by
  rw [exists_ofRows_iff (stands.withStored change) (by simpa using some),
    ReadingScope.exists_readGrouped_withStored texts reads, exists_ofRows_iff stands some]

end GraphSegments
