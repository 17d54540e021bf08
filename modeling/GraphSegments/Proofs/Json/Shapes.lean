import GraphSegments.Json.Shape
import GraphSegments.Proofs.Dictionaries

/-!
What is written in one of the shapes of JSON is read back in that shape: records by their names,
choices by theirs, numbers within their bounds, and lists item by item.
-/

namespace GraphSegments.Json

variable {α β γ : Type}

theorem mapM_map_eq_some {read : β → Option γ} {write : α → β} {meaning : α → γ} {items : List α}
    (each : ∀ item ∈ items, read (write item) = some (meaning item)) :
    (items.map write).mapM read = some (items.map meaning) := by
  induction items with
  | nil => rfl
  | cons item rest ih =>
    obtain ⟨here, later⟩ := List.forall_mem_cons.1 each
    rw [List.map_cons, List.mapM_cons, here, ih later]
    rfl

/-- A list of what is read back each is read back. -/
theorem asList?_list {read : Json → Option α} {write : α → Json} {items : List α}
    (each : ∀ item ∈ items, read (write item) = some item) :
    asList? read (list (items.map write)) = some items := by
  rw [asList?, mapM_map_eq_some each, List.map_id']

theorem asList?_ofTexts (texts : List String) : asList? asText? (ofTexts texts) = some texts :=
  asList?_list fun _ _ => rfl

/-- A choice is read back by its name if no other one has that name. -/
theorem oneOf?_text {all : List α} {nameOf : α → String} (distinct : (all.map nameOf).Nodup)
    {item : α} (known : item ∈ all) : oneOf? all nameOf (text (nameOf item)) = some item := by
  have found : (all.find? fun other => nameOf other == nameOf item).isSome = true :=
    List.find?_isSome.2 ⟨item, known, beq_self_eq_true _⟩
  obtain ⟨other, found⟩ := Option.isSome_iff_exists.1 found
  have same : nameOf other = nameOf item := by simpa using List.find?_some found
  obtain rfl := List.inj_on_of_nodup_map distinct (List.mem_of_find?_eq_some found) known same
  exact found

/-- The fields of a record are read back by their names, if all names are different. -/
theorem fields?_object {entries : List (String × Json)} (distinct : (entries.map (·.1)).Nodup)
    (spare : Nat) :
    fields? (entries.map (·.1)) spare (object entries) =
      some (entries.map fun entry => some entry.2) := by
  refine mapM_map_eq_some fun entry listed => ?_
  rw [unique?, Dictionary.filter_eq_singleton distinct listed]

/-- A number within bounds is read back. -/
theorem asInt?_int {least most value : Int} (low : least ≤ value) (high : value ≤ most) :
    asInt? least most (int value) = some value :=
  if_pos ⟨low, high⟩

end GraphSegments.Json
