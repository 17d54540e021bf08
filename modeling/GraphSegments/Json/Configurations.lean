import GraphSegments.Configuration.Place
import GraphSegments.Json.Reader
import GraphSegments.Json.Shape

/-!
Configurations in JSON, and the file in which one is kept.
-/

namespace GraphSegments

namespace Backend

def toJson : Backend → Json
  | sqlite path => .object [("backend", .text "sqlite"), ("path", .ofOption Json.text path)]
  | postgres url => .object [("backend", .text "postgres"), ("url", .text url)]
  | mysql url => .object [("backend", .text "mysql"), ("url", .text url)]
  | redshift url => .object [("backend", .text "redshift"), ("url", .text url)]

/-- Reads what goes with the name of a backend. -/
def ofName? (name : String) (json : Json) : Option Backend :=
  match name with
  | "sqlite" => do
    match ← json.fields? ["path"] 0 with
    | [path] => return sqlite (← Json.optional Json.asText? path)
    | _ => none
  | "postgres" => url json postgres
  | "mysql" => url json mysql
  | "redshift" => url json redshift
  | _ => none
where
  url (json : Json) (backend : String → Backend) : Option Backend := do
    match ← json.fields? ["url"] 0 with
    | [url] => return backend (← Json.required Json.asText? url)
    | _ => none

/-- How deep lists and objects can stand in one another in a backend. -/
def deepest : Nat := 126

/-- Reads a backend: its name stands among its fields, or in front of them in a list. All of it is
read before the name is known, so what no field asks for has to be sound as well, and not too
deep. -/
def ofJson? (json : Json) : Option Backend :=
  if !json.isSound || deepest < json.depth then none
  else
    match json with
    | .object entries => do
      ofName? (← Json.required Json.asText? (← Json.unique? entries "backend")) json
    | .list (name :: fields) => do ofName? (← name.asText?) (.list fields)
    | _ => none

end Backend

namespace PoolSettings

def toJson (pool : PoolSettings) : Json :=
  let number32 := Json.ofOption fun n : UInt32 => .int n.toNat
  let number64 := Json.ofOption fun n : UInt64 => .int n.toNat
  .object
    [("max_connections", number32 pool.maxConnections),
      ("min_connections", number32 pool.minConnections),
      ("connect_timeout_ms", number64 pool.connectTimeout),
      ("acquire_timeout_ms", number64 pool.acquireTimeout),
      ("idle_timeout_ms", number64 pool.idleTimeout)]

def connections? : Option Json → Option (Option UInt32) :=
  Json.optional fun json => (json.asNat? 32).map UInt32.ofNat

def millis? : Option Json → Option (Option UInt64) :=
  Json.optional fun json => (json.asNat? 64).map UInt64.ofNat

def ofJson? (json : Json) : Option PoolSettings := do
  match ← json.fields?
      ["max_connections", "min_connections", "connect_timeout_ms", "acquire_timeout_ms",
        "idle_timeout_ms"] 0 with
  | [most, least, connect, acquire, idle] =>
    return ⟨← connections? most, ← connections? least, ← millis? connect, ← millis? acquire,
      ← millis? idle⟩
  | _ => none

end PoolSettings

namespace ExecutionMode

def all : List ExecutionMode := [setAlgebra, singleStatement]

def tag : ExecutionMode → String
  | setAlgebra => "set_algebra"
  | singleStatement => "single_statement"

def toJson (mode : ExecutionMode) : Json := .text mode.tag

def ofJson? (json : Json) : Option ExecutionMode := json.oneOf? all tag

end ExecutionMode

namespace Enforcement

def all : List Enforcement := [strict, tolerant, lenient]

def tag : Enforcement → String
  | strict => "strict"
  | tolerant => "tolerant"
  | lenient => "lenient"

def toJson (enforcement : Enforcement) : Json := .text enforcement.tag

def ofJson? (json : Json) : Option Enforcement := json.oneOf? all tag

end Enforcement

namespace QueryPreferences

def toJson (preferences : QueryPreferences) : Json :=
  .object
    [("probing", .ofOption Json.bool preferences.probing),
      ("fold_types", .ofOption Json.bool preferences.folding),
      ("execution_mode", .ofOption ExecutionMode.toJson preferences.mode),
      ("ignore_broken_data", .ofOption Json.bool preferences.ignoreBroken)]

def ofJson? (json : Json) : Option QueryPreferences := do
  match ← json.fields? ["probing", "fold_types", "execution_mode", "ignore_broken_data"] 0 with
  | [probing, folding, mode, ignoreBroken] =>
    return ⟨← Json.optional Json.asBool? probing, ← Json.optional Json.asBool? folding,
      ← Json.optional ExecutionMode.ofJson? mode, ← Json.optional Json.asBool? ignoreBroken⟩
  | _ => none

end QueryPreferences

namespace Configuration

def toJson (config : Configuration) : Json :=
  .object
    [("database", config.database.toJson), ("pool", .ofOption PoolSettings.toJson config.pool),
      ("tables_prefix", .ofOption Json.text config.tablesStart),
      ("version_enforcement", .ofOption Enforcement.toJson config.enforcement),
      ("external_properties", .ofOption Json.bool config.external),
      ("query", .ofOption QueryPreferences.toJson config.query)]

def ofJson? (json : Json) : Option Configuration := do
  match ← json.fields?
      ["database", "pool", "tables_prefix", "version_enforcement", "external_properties",
        "query"] 0 with
  | [database, pool, start, enforcement, external, query] =>
    return ⟨← Json.required Backend.ofJson? database,
      ← Json.optional PoolSettings.ofJson? pool, ← Json.optional Json.asText? start,
      ← Json.optional Enforcement.ofJson? enforcement, ← Json.optional Json.asBool? external,
      ← Json.optional QueryPreferences.ofJson? query⟩
  | _ => none

/-- Reads the contents of a configuration file, which have to be valid. Outside of the backend,
what no field asks for can be void. -/
def ofFile (contents : String) : Except Error Configuration :=
  match (Json.parse? contents).bind ofJson? with
  | none => .error (.configuration .unreadable)
  | some config => do
    config.validate
    return config

/-- The contents of the file for a configuration. -/
def toFile (config : Configuration) : String := config.toJson.indented

/-- The configuration kept in a place, and the contents of its file afterwards. The directory is
created, and where there is no file, one for a new store in that directory is written. -/
def load (place : Place) (file : Option String) : Except Error Configuration × Option String :=
  if !place.isCreatable then (.error (.configuration .noFolder), file)
  else
    match file with
    | some contents => (ofFile contents, file)
    | none =>
      let config := standard (Path.join place.directory defaultDatabaseName)
      (.ok config, config.toFile)

end Configuration

end GraphSegments
