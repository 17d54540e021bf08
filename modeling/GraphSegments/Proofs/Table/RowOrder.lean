import GraphSegments.Proofs.Table.Grouping
import Mathlib.Data.List.Count

/-!
The order in which the rows of an object come. A table promises none for rows of different
properties; only the rows of one property have an order of their own, that of its values. What is
read goes by the rows of each property, so rows of different properties may change places.
-/

namespace GraphSegments
open Results

namespace Row

variable {rows others : List Row}

/-- Rows in another order that keeps the order of the rows of each property. -/
def Reordered (rows others : List Row) : Prop := ∀ name, named name rows = named name others

theorem Reordered.symm (reordered : Reordered rows others) : Reordered others rows :=
  fun name => (reordered name).symm

/-- No row is added or left out: each is among the rows of its property. -/
theorem Reordered.perm (reordered : Reordered rows others) : rows.Perm others := by
  apply List.perm_iff_count.2
  intro row
  have counted (list : List Row) : (named row.name list).count row = list.count row :=
    List.count_filter (by simp)
  calc
    rows.count row = (named row.name rows).count row := (counted rows).symm
    _ = (named row.name others).count row := by rw [reordered]
    _ = others.count row := counted others

/-- Two neighbours of different properties may change places. -/
theorem reordered_swap {a b : Row} (differs : a.name ≠ b.name) (rest : List Row) :
    Reordered (a :: b :: rest) (b :: a :: rest) := by
  intro name
  by_cases first : a.name = name
  · have second : b.name ≠ name := fun same => differs (first.trans same.symm)
    simp [named, first, second]
  · simp [named, List.filter_cons, first]

theorem Coherent.of_perm (coherent : Coherent rows) (perm : rows.Perm others) :
    Coherent others :=
  (perm.pairwise_iff fun {_ _} agree uris names =>
    (agree uris.symm names.symm).symm).1 coherent

end Row

namespace PropertyRows

variable {uri : String} {rows others : List Row} {grouped : Dictionary PropertyRows}

/-- What is known after some rows is known after the same rows in another order. -/
theorem Stands.reordered (stands : Stands uri rows grouped) (reordered : Row.Reordered rows others) :
    Stands uri others grouped where
  uris row listed := stands.uris row (reordered.perm.mem_iff.2 listed)
  coherent := stands.coherent.of_perm reordered.perm
  found name := by rw [stands.found, reordered]

end PropertyRows

namespace DecodedObject

variable (registry : Registry) (options : ReadOptions) {rows others : List Row}

/-- Rows that can be grouped are read as the same object in another order, or fail alike. -/
theorem ofRows_of_stands {uri : String} {grouped : Dictionary PropertyRows}
    (stands : PropertyRows.Stands uri rows grouped) (reordered : Row.Reordered rows others) :
    ofRows registry options rows = ofRows registry options others := by
  have length := reordered.perm.length_eq
  have standsToo := stands.reordered reordered
  cases rows with
  | nil =>
    obtain rfl := List.length_eq_zero_iff.1 length.symm
    rfl
  | cons first rest =>
    cases others with
    | nil => cases length
    | cons second more =>
      have own : first.uri = uri := stands.uris first List.mem_cons_self
      have same : second.uri = uri := standsToo.uris second List.mem_cons_self
      rw [ofRows, ofRows, own, same, PropertyRows.group_eq_ok.2 stands,
        PropertyRows.group_eq_ok.2 standsToo]

variable {registry options}

/-- Rows that are read have been grouped. -/
theorem exists_stands_of_ofRows {result : Option DecodedObject}
    (read : ofRows registry options rows = .ok result) :
    ∃ uri grouped, PropertyRows.Stands uri rows grouped := by
  cases rows with
  | nil => exact ⟨"", ∅, PropertyRows.stands_start ""⟩
  | cons first rest =>
    obtain ⟨grouped, made, -⟩ := bind_eq_ok.1 read
    exact ⟨first.uri, grouped, PropertyRows.group_eq_ok.1 made⟩

variable (registry options) in
/-- Rows of different properties may come in any order: in one order they are read exactly if they
are in the other, as the same object, with the same texts still to be fetched. Where each property
is single in one row or multi-valued in all of its rows, what is wrong is told alike, too. -/
theorem ofRows_ignores_order (reordered : Row.Reordered rows others) :
    (∀ result, ofRows registry options rows = .ok result ↔
      ofRows registry options others = .ok result) ∧
    (∀ uri, (∀ row ∈ rows, row.uri = uri) → Row.Coherent rows →
      ofRows registry options rows = ofRows registry options others) := by
  refine ⟨fun result => ⟨fun read => ?_, fun read => ?_⟩, fun uri mine coherent => ?_⟩
  · obtain ⟨_, _, stands⟩ := exists_stands_of_ofRows read
    exact (ofRows_of_stands registry options stands reordered).symm.trans read
  · obtain ⟨_, _, stands⟩ := exists_stands_of_ofRows read
    exact (ofRows_of_stands registry options stands reordered.symm).symm.trans read
  · obtain ⟨_, made⟩ := PropertyRows.exists_group mine coherent
    exact ofRows_of_stands registry options (PropertyRows.group_eq_ok.1 made) reordered

/-- The class of an object, between its two types and before them. -/
theorem ofRows_ignores_order_interleaved :
    let row (name : String) (value : String) (multi : Bool) : Row :=
      ⟨"urn:a", name, Vocabulary.nodeClass, false, none, none, .uri value, multi, none⟩
    let vitaltype := row Vocabulary.vitaltype Vocabulary.nodeClass false
    let first := row Vocabulary.types "urn:T" true
    let second := row Vocabulary.types "urn:S" true
    let options : ReadOptions := ⟨.strict, false, false, .inline⟩
    let node : GraphObject :=
      ⟨"urn:a", Vocabulary.nodeClass, [Vocabulary.nodeClass, "urn:T", "urn:S"], ∅⟩
    Row.Reordered [vitaltype, first, second] [first, vitaltype, second] ∧
      ofRows .core options [first, vitaltype, second] = .ok (some ⟨node, []⟩) := by
  intro row vitaltype first second options node
  have reordered : Row.Reordered [vitaltype, first, second] [first, vitaltype, second] :=
    Row.reordered_swap (by decide) [second]
  have read : ofRows .core options [vitaltype, first, second] = .ok (some ⟨node, []⟩) :=
    eq_ok_of_toOption (by decide +kernel)
  obtain ⟨sameRead, -⟩ := ofRows_ignores_order .core options reordered
  exact ⟨reordered, (sameRead _).1 read⟩

end DecodedObject

end GraphSegments
