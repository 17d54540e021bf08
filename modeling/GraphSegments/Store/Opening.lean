import GraphSegments.Store
import GraphSegments.Json.Configurations

/-!
Opening a new store in a place. Only files are opened; other databases would have to be reached
over a network.
-/

namespace GraphSegments.Store

/-- Opens a new store in a place that has been created. A pool that does not wait for its first
connection never has one. -/
def openIn (place : Place) (config : Configuration) (registry : Registry) :
    Except Error Store := do
  config.validate
  match config.sqlitePath place.directory with
  | .error _ => .error .storage
  | .ok path =>
    if place.canCreate path && config.pool.all (·.waits) then Store.create config registry
    else .error .storage

/-- Opens the store of a place by the contents of its configuration file, if there is one. -/
def ofPlace (place : Place) (file : Option String) (registry : Registry) :
    Except Error Store := do
  openIn place (← (Configuration.load place file).1) registry

end GraphSegments.Store
