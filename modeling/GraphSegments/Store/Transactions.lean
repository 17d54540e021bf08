import GraphSegments.Error

/-!
The live transactions of a store, never more than a limit. A transaction whose handle somebody
holds cannot be ended, except by closing them all.
-/

namespace GraphSegments

/-- A live transaction and what it has done. -/
structure Transaction (α : Type) where
  id : String
  work : α

/-- Live transactions. -/
structure Transactions (α : Type) where
  limit : Nat
  /-- How many were created so far; that makes the next id. -/
  created : Nat
  live : List (Transaction α)
  /-- The ids of handles that are held. -/
  held : List String

namespace Transactions

variable {α : Type}

def empty (limit : Nat) : Transactions α := ⟨limit, 0, [], []⟩

/-- The id of the transaction with a number. -/
def idOf (number : Nat) : String := "tx" ++ toString number

def size (transactions : Transactions α) : Nat := transactions.live.length

/-- Starts a transaction unless there are too many. -/
def create (transactions : Transactions α) (work : α) : Except Error (String × Transactions α) :=
  if transactions.limit ≤ transactions.size then .error (.capacity transactions.limit)
  else
    let id := idOf transactions.created
    .ok (id, { transactions with
      created := transactions.created + 1
      live := transactions.live ++ [⟨id, work⟩] })

/-- The work of a live transaction. -/
def get (transactions : Transactions α) (id : String) : Except Error α :=
  match transactions.live.find? (·.id == id) with
  | some found => .ok found.work
  | none => .error (.notFound (.transaction id))

/-- Replaces the work of a live transaction. -/
def set (transactions : Transactions α) (id : String) (work : α) : Transactions α :=
  { transactions with
    live := transactions.live.map fun known => if known.id = id then ⟨id, work⟩ else known }

def remove (transactions : Transactions α) (id : String) : Transactions α :=
  { transactions with live := transactions.live.filter (·.id != id) }

/-- Ends a live transaction that nobody holds, and gives its work. -/
def take (transactions : Transactions α) (id : String) : Except Error (α × Transactions α) := do
  let work ← transactions.get id
  if transactions.held.contains id then .error (.conflict (.transactionInUse id))
  else .ok (work, transactions.remove id)

/-- Holds the handle of a live transaction. -/
def hold (transactions : Transactions α) (id : String) : Except Error (Transactions α) := do
  let _ ← transactions.get id
  return { transactions with held := id :: transactions.held.filter (· != id) }

/-- Lets go of a handle, and tells whether it was held. -/
def release (transactions : Transactions α) (id : String) : Bool × Transactions α :=
  (transactions.held.contains id,
    { transactions with held := transactions.held.filter (· != id) })

/-- Drops all live transactions. Handles that are held stay so. -/
def close (transactions : Transactions α) : Transactions α := { transactions with live := [] }

end Transactions

end GraphSegments
