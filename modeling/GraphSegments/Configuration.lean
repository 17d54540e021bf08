import GraphSegments.Path
import GraphSegments.Search.Answer
import GraphSegments.Text.Blank

/-!
The configuration of a store: which database, how many connections, and how objects are searched
and read. What a configuration leaves open has a default.
-/

namespace GraphSegments

/-- The database behind a store. -/
inductive Backend where
  | sqlite (path : Option String)
  | postgres (url : String)
  | mysql (url : String)
  | redshift (url : String)
  deriving DecidableEq, Repr, Inhabited

namespace Backend

def dialect : Backend → Dialect
  | sqlite _ => .sqlite
  | postgres _ => .postgres
  | mysql _ => .mysql
  | redshift _ => .redshift

/-- Where a database is that is not a file. -/
def url? : Backend → Option String
  | sqlite _ => none
  | postgres url | mysql url | redshift url => some url

end Backend

/-- The pool of connections. Times are milliseconds. -/
structure PoolSettings where
  maxConnections : Option UInt32
  minConnections : Option UInt32
  connectTimeout : Option UInt64
  acquireTimeout : Option UInt64
  idleTimeout : Option UInt64
  deriving DecidableEq, Repr, Inhabited

namespace PoolSettings

/-- How long a connection is waited for, if that is said. -/
def wait? (pool : PoolSettings) : Option UInt64 := pool.acquireTimeout <|> pool.connectTimeout

/-- Whether a connection is waited for at all. -/
def waits (pool : PoolSettings) : Bool := pool.wait? != some 0

end PoolSettings

/-- How queries are answered, as far as that is said. -/
structure QueryPreferences where
  probing : Option Bool
  folding : Option Bool
  mode : Option ExecutionMode
  ignoreBroken : Option Bool
  deriving DecidableEq, Repr, Inhabited

/-- The preferences of a configuration that has none. -/
def QueryPreferences.standard : QueryPreferences :=
  ⟨some true, some true, some .setAlgebra, some false⟩

/-- A configuration, as far as things are said. -/
structure Configuration where
  database : Backend
  pool : Option PoolSettings
  tablesStart : Option String
  enforcement : Option Enforcement
  external : Option Bool
  query : Option QueryPreferences
  deriving DecidableEq, Repr, Inhabited

namespace Configuration

/-- The name of the file in which a configuration is kept. -/
def fileName : String := "vitalsql.json"

/-- The name of the file of a database for which none is said. -/
def defaultDatabaseName : String := "vitalsql.sqlite"

def defaultTablesStart : String := "vitalsql_"

def defaultPoolMax : Nat := 10

/-- The configuration of a new store in a file. -/
def standard (path : String) : Configuration where
  database := .sqlite (some path)
  pool := none
  tablesStart := some defaultTablesStart
  enforcement := some .strict
  external := some false
  query := some .standard

/-- What the names of segment tables start with. -/
def start (config : Configuration) : String := config.tablesStart.getD defaultTablesStart

/-- The most connections at a time. -/
def poolMax (config : Configuration) : Nat :=
  ((config.pool.bind (·.maxConnections)).map (·.toNat)).getD defaultPoolMax

/-- The most transactions at a time: four fifths of the connections. -/
def transactionLimit (config : Configuration) : Nat := config.poolMax * 4 / 5

def preferences (config : Configuration) : QueryPreferences := config.query.getD .standard

/-- How a store of this configuration reads. -/
def readOptions (config : Configuration) : ReadOptions where
  enforcement := config.enforcement.getD .strict
  external := config.external.getD false
  ignoreBroken := config.preferences.ignoreBroken.getD false
  overflow := .inline

/-- How a store of this configuration searches. -/
def searchSettings (config : Configuration) : SearchSettings where
  tablesStart := config.start
  probing := config.preferences.probing.getD true
  folding := config.preferences.folding.getD true
  mode := config.preferences.mode.getD .setAlgebra
  read := config.readOptions

/-- Whether a character can stand in an identifier. -/
def isIdentifierChar (c : Char) : Bool := c.isAlphanum || c == '_'

/-- The pool needs room for work outside of transactions. -/
def validatePool (config : Configuration) (pool : PoolSettings) : Except Error Unit :=
  match pool.maxConnections with
  | none => .ok ()
  | some most =>
    if most = 0 then .error (.configuration .emptyPool)
    else if config.transactionLimit = 0 then
      .error (.configuration (.smallPool config.poolMax))
    else
      match pool.minConnections with
      | none => .ok ()
      | some least =>
        if most < least then
          .error (.configuration (.poolBounds least.toNat most.toNat))
        else .ok ()

/-- Whether a store can be opened with a configuration, as far as that can be told beforehand. -/
def validate (config : Configuration) : Except Error Unit := do
  if config.start.isEmpty || !config.start.toList.all isIdentifierChar then
    .error (.configuration (.tablesPrefix config.start))
  config.pool.forM config.validatePool
  if config.database.url?.any Text.allBlank then .error (.configuration .emptyUrl)

/-- The file of the database, as a path from a directory. -/
def sqlitePath (config : Configuration) (directory : String) : Except Error String :=
  match config.database with
  | .sqlite path => .ok (Path.join directory (path.getD defaultDatabaseName))
  | _ => .error (.configuration .notAFile)

end Configuration

end GraphSegments
