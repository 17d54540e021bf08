import GraphSegments.Proofs.Results
import GraphSegments.Search.Dialogue

/-!
Dialogues held with a database. What a dialogue comes to is found step by step.
-/

namespace GraphSegments.Dialogue
open Results

variable {α β : Type}

section Run

variable (database : Database)

@[simp] theorem run_pure (value : α) : (pure value : Dialogue α).run database = .ok value := rfl

@[simp] theorem run_done (value : α) : (done value).run database = .ok value := rfl

@[simp] theorem run_bind (dialogue : Dialogue α) (next : α → Dialogue β) :
    (dialogue >>= next).run database =
      dialogue.run database >>= fun value => (next value).run database := by
  change (dialogue.bind next).run database = _
  induction dialogue with
  | done value => rfl
  | fail error => rfl
  | uris select rest ih =>
    simp only [bind, run]
    cases database.recordsOf select.table with
    | error error => rfl
    | ok records => exact ih _
  | records select rest ih =>
    simp only [bind, run]
    cases database.recordsOf select.table with
    | error error => rfl
    | ok records => exact ih _
  | every place table rest ih =>
    simp only [bind, run]
    cases database.recordsOf table with
    | error error => rfl
    | ok records => exact ih _
  | depth needed rest ih =>
    simp only [bind, run]
    split
    · exact ih
    · rfl
  | note entry rest ih => exact ih

@[simp] theorem run_ofExcept (result : Except Error α) :
    (ofExcept result).run database = result := by
  cases result <;> rfl

theorem run_reach (needed : Nat) :
    (reach needed).run database = if needed ≤ Database.deepest then .ok () else .error .storage :=
  rfl

theorem run_askUris (select : Select) :
    (askUris select).run database =
      (database.recordsOf select.table).map (select.uris database.patterns) := by
  simp only [askUris, run]
  cases database.recordsOf select.table <;> rfl

theorem run_askRecords (select : Select) :
    (askRecords select).run database =
      (database.recordsOf select.table).map (select.records database.patterns) := by
  simp only [askRecords, run]
  cases database.recordsOf select.table <;> rfl

theorem run_askEvery (place : Nat) (table : String) :
    (askEvery place table).run database =
      (database.recordsOf table).map ((Select.everyObject table).uris database.patterns) := by
  simp only [askEvery, run]
  cases database.recordsOf table <;> rfl

end Run

end GraphSegments.Dialogue
