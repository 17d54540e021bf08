import GraphSegments.Configuration
import GraphSegments.Store.Objects
import GraphSegments.Store.Scan
import GraphSegments.Store.Transactions

/-!
A store: a database, the scope in which it is used, and the live transactions. A transaction sees
the database as it was when the transaction first looked at it, together with its own changes;
everybody else sees those changes once it is committed. While one transaction has written, no one
else writes, and nothing is committed that another live transaction has looked at.
-/

namespace GraphSegments

/-- What a transaction has done since it first looked at the database. -/
structure Work where
  database : Database
  wrote : Bool

structure Store where
  scope : StoreScope
  database : Database
  transactions : Transactions (Option Work)

namespace Store

/-- A store on a database that has been set up. -/
def ofDatabase (config : Configuration) (registry : Registry) (database : Database) : Store where
  scope := ⟨registry, config.searchSettings⟩
  database := database
  transactions := .empty config.transactionLimit

/-- Opens a store on a database, and gives the database as it is after that. -/
def openOn (config : Configuration) (registry : Registry) (database : Database) :
    Except Error Store × Database :=
  match config.validate with
  | .error error => (.error error, database)
  | .ok _ =>
    let (outcome, prepared) := database.setUp
    (outcome.map fun _ => .ofDatabase config registry prepared, prepared)

/-- Opens a store on an empty database. -/
def create (config : Configuration) (registry : Registry) : Except Error Store :=
  (openOn config registry .empty).1

/-- Whether another transaction has looked at the database. -/
def isShared (store : Store) (id : String) : Bool :=
  store.transactions.live.any fun other => other.id != id && other.work.isSome

/-- Whether another transaction has written. -/
def isLocked (store : Store) (id : String) : Bool :=
  store.transactions.live.any fun other => other.id != id && other.work.any (·.wrote)

/-- Changes the database outside of transactions. -/
def commitDirect (store : Store) (next : Database) : Except Error Store :=
  if store.transactions.live.any (·.work.isSome) then .error .storage
  else .ok { store with database := next }

/-- Keeps the changes of a step that may have failed on its way. -/
def keep {α : Type} (store : Store) (step : Except Error α × Database) : Except Error α × Store :=
  match store.commitDirect step.2 with
  | .ok next => (step.1, next)
  | .error error => (.error error, store)

/-- Adds a segment. -/
def addSegment (store : Store) (segment : Segment) : Except Error Unit × Store :=
  if store.scope.hasSegment store.database segment then
    (.error (.conflict (.segmentExists segment.uri segment.id)), store)
  else store.keep (store.scope.addSegment store.database segment)

/-- Deletes a segment. -/
def deleteSegment (store : Store) (segment : Segment) (withData : Bool) :
    Except Error Unit × Store :=
  match store.scope.requireTable store.database segment with
  | .error error => (.error error, store)
  | .ok _ =>
    if withData then store.keep (store.scope.deleteSegment store.database segment true)
    else (.ok (), store)

/-- Runs a change: its value, the database after it, and whether it wrote at all. -/
abbrev Change (α : Type) := Database → Except Error (α × Database × Bool)

/-- Runs a change outside of transactions. Either all of it happens or nothing. -/
def directly {α : Type} (store : Store) (change : Change α) : Except Error α × Store :=
  match change store.database with
  | .error error => (.error error, store)
  | .ok (value, next, wrote) =>
    if !wrote then (.ok value, store)
    else
      match store.commitDirect next with
      | .error error => (.error error, store)
      | .ok changed => (.ok value, changed)

/-- Changes the database behind the back of the store. -/
def amend (store : Store) (change : Database → Except Error Database) :
    Except Error Unit × Store :=
  store.directly fun database => do return ((), ← change database, true)

/-- Creates a table of records behind the back of the store. -/
def createTable (store : Store) (table : String) : Except Error Unit × Store :=
  store.keep (store.database.execInTurn (Statement.createSegment table))

/-- Drops the catalog behind the back of the store. -/
def tearDown (store : Store) : Except Error Unit × Store :=
  store.directly fun database => .ok ((), database.tearDown, database.prepared)

/-- Runs a change in a live transaction. -/
def within {α : Type} (store : Store) (id : String) (change : Change α) :
    Except Error α × Store :=
  match store.transactions.get id with
  | .error error => (.error error, store)
  | .ok work =>
    let seen := work.getD ⟨store.database, false⟩
    let leave (work : Work) : Store :=
      { store with transactions := store.transactions.set id (some work) }
    match change seen.database with
    | .error error => (.error error, leave seen)
    | .ok (value, next, wrote) =>
      if wrote && store.isLocked id then (.error .storage, leave seen)
      else (.ok value, leave ⟨next, seen.wrote || wrote⟩)

/-- Runs a change in a transaction, or directly where none is named. -/
def change {α : Type} (store : Store) (id : Option String) (change : Change α) :
    Except Error α × Store :=
  match id with
  | some id => store.within id change
  | none => store.directly change

/-- Saves objects in a segment. Without objects there is nothing to do. -/
def save (store : Store) (id : Option String) (target : Segment) (objects : List GraphObject)
    (pool : List Segment) : Except Error (List GraphObject) × Store :=
  if objects.isEmpty then (.ok objects, store)
  else
    store.change id fun database => do
      let next ← store.scope.save database target objects pool
      return (objects, next, true)

/-- Deletes objects from the segments of a pool. Without URIs there is nothing to do. -/
def deleteBatch (store : Store) (id : Option String) (pool : List Segment)
    (uris : List String) : Except Error Nat × Store :=
  if uris.isEmpty then (.ok 0, store)
  else
    store.change id fun database => do
      let (count, next) ← store.scope.deleteBatch database pool uris
      return (count, next, count != 0)

/-- Deletes all objects of a segment. -/
def deleteAll (store : Store) (segment : Segment) : Except Error Unit × Store :=
  store.directly fun database => do
    let next ← store.scope.deleteAll database segment
    return ((), next, true)

/-- Starts a transaction, and gives its id. -/
def createTransaction (store : Store) : Except Error String × Store :=
  match store.transactions.create none with
  | .error error => (.error error, store)
  | .ok (id, transactions) => (.ok id, { store with transactions })

/-- Commits a transaction. It is gone afterwards, whether its changes could be kept or not. -/
def commitTransaction (store : Store) (id : String) : Except Error Unit × Store :=
  match store.transactions.take id with
  | .error error => (.error error, store)
  | .ok (work, transactions) =>
    let ended : Store := { store with transactions }
    match work with
    | some ⟨next, true⟩ =>
      if store.isShared id then (.error .storage, ended)
      else (.ok (), { ended with database := next })
    | _ => (.ok (), ended)

/-- Gives up a transaction and its changes. -/
def rollbackTransaction (store : Store) (id : String) : Except Error Unit × Store :=
  match store.transactions.take id with
  | .error error => (.error error, store)
  | .ok (_, transactions) => (.ok (), { store with transactions })

/-- Gives up all transactions. -/
def close (store : Store) : Store := { store with transactions := store.transactions.close }

/-- Closes a store and opens it again with another configuration and registry. If that fails, the
closed store is left. -/
def reopen (store : Store) (config : Configuration) (registry : Registry) :
    Except Error Unit × Store :=
  match openOn config registry store.database with
  | (.error error, database) => (.error error, { store.close with database })
  | (.ok opened, _) => (.ok (), opened)

end Store

end GraphSegments
