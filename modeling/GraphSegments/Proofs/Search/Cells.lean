import GraphSegments.Proofs.Search.Columns
import GraphSegments.Proofs.Table.Writing

/-!
What the value columns of an object's rows hold of its properties. The column of a kind that stands
for single values holds the values of that kind that the object has one by one, and nothing else.
-/

namespace GraphSegments
open Results

theorem Encoded.kind_stored (value : Value) (multi : Bool) :
    (ofValue value multi).stored.kind = value.kind := by
  rw [ofValue]
  cases value with
  | string text | other text =>
    by_cases long : text.length > Overflow.threshold <;>
      simp [overflow?, long, Overflow.ofText, Value.kind]
  | _ => rfl

/-- What the column of a value holds of it once it is written. -/
def Value.storedDatum (value : Value) : Datum :=
  (Encoded.ofValue (GraphObject.storedValue value) false).stored.datum

namespace GraphObject

/-- Whether an object holds a value, as the only one, under a name that is now the name of a
property. -/
def HoldsAlone (object : GraphObject) (property : String) (value : Value) : Prop :=
  ∃ name, (name, PropertyValue.single value) ∈ object.properties.entries ∧
    versionless name = versionless property

/-- Whether the names that are now the name of a property are spelled as it is, and what is read of
the first value under it is all that there is. -/
def HoldsPlainly {α : Type} (object : GraphObject) (property : String) (read? : Value → Option α)
    (wrap : α → Value) : Prop :=
  ∀ name held, (name, held) ∈ object.properties.entries → versionless name = property →
    name = property ∧ ∀ a, held.first?.bind read? = some a → held = .single (wrap a)

/-- What is read of the first value is then what the object holds alone. -/
theorem HoldsPlainly.read_iff {α : Type} {object : GraphObject} {property : String}
    {read? : Value → Option α} {wrap : α → Value}
    (plainly : object.HoldsPlainly property read? wrap) (current : versionless property = property)
    (reads : ∀ a, read? (wrap a) = some a) (a : α) :
    ((object.get? property).bind (·.first?)).bind read? = some a ↔
      object.HoldsAlone property (wrap a) := by
  constructor
  · intro read
    obtain ⟨value, first, read⟩ := Option.bind_eq_some_iff.1 read
    obtain ⟨held, found, first⟩ := Option.bind_eq_some_iff.1 first
    have entry := Dictionary.find?_eq_some.1 found
    obtain ⟨-, only⟩ := plainly property held entry current
    obtain rfl := only a (Option.bind_eq_some_iff.2 ⟨value, first, read⟩)
    exact ⟨property, entry, rfl⟩
  · intro holds
    obtain ⟨name, entry, same⟩ := holds
    obtain ⟨rfl, -⟩ := plainly name _ entry (same.trans current)
    rw [get?, Dictionary.find?_eq_some.2 entry]
    exact reads a

/-- The column of a kind holds something of the row of a value exactly if the value stands alone and
is of that kind. -/
theorem cell_rowOfValue (registry : Registry) (object : GraphObject) (name : String)
    {held : PropertyValue} {value : Value} (member : value ∈ held.values) (kind : ValueKind) :
    (Record.ofRow (object.rowOfValue registry name held value)).cell (.value kind false) =
      if held = .single value ∧ value.kind = kind then value.storedDatum else .null := by
  have own : (object.rowOfValue registry name held value).value.kind = value.kind := by
    refine (Encoded.kind_stored _ _).trans ?_
    cases value <;> rfl
  have multi : (object.rowOfValue registry name held value).multi = held.isMulti := rfl
  rw [Record.cell_value, own, multi]
  cases held with
  | multi values => simp [PropertyValue.isMulti]
  | single only =>
    obtain rfl := List.mem_singleton.1 member
    simp only [PropertyValue.isMulti, and_true, true_and, eq_comm (a := kind)]
    rfl

/-- The rows under a name that is not structural pass exactly if one of the values does that the
object holds alone. -/
theorem exists_passing_row_iff {registry : Registry} {object : GraphObject} {rows : List Row}
    (written : object.toRows registry = .ok rows) {property : String}
    (plain : Vocabulary.isStructural (versionless property) = false) (kind : ValueKind)
    {passes : Datum → Prop} (nothing : ¬ passes .null) :
    (∃ row ∈ rows, row.name = versionless property ∧
        passes ((Record.ofRow row).cell (.value kind false))) ↔
      ∃ value, object.HoldsAlone property value ∧ value.kind = kind ∧ passes value.storedDatum := by
  obtain ⟨-, ontology, listed⟩ := exists_ontology_of_toRows written
  constructor
  · intro passed
    obtain ⟨row, mine, named, passed⟩ := passed
    obtain ⟨name, held, entry, value, member, rfl⟩ := (listed row).1 mine
    have same : versionless name = versionless property := named
    rw [cell_rowOfValue registry object name member] at passed
    split at passed
    next sole =>
      obtain ⟨rfl, kinds⟩ := sole
      rcases isStructural_or_of_mem_entries entry with structural | ⟨own, -⟩
      · rw [← same, versionless_of_isStructural structural, structural] at plain
        exact absurd plain (by simp)
      · exact ⟨value, ⟨name, own, same⟩, kinds, passed⟩
    next => exact absurd passed nothing
  · intro passed
    obtain ⟨value, ⟨name, own, named⟩, kinds, passed⟩ := passed
    have entry : (name, PropertyValue.single value) ∈ object.entries ontology := by
      simp [entries, own, named, plain]
    have member : value ∈ (PropertyValue.single value).values := List.mem_singleton_self value
    refine ⟨_, (listed _).2 ⟨name, _, entry, value, member, rfl⟩, named, ?_⟩
    rwa [cell_rowOfValue registry object name member, if_pos ⟨rfl, kinds⟩]

end GraphObject

end GraphSegments
