import GraphSegments.Configuration
import GraphSegments.Text.Percent

/-!
The place of a store: a directory with the file of its configuration, and the paths under which a
database can be created from there.
-/

namespace GraphSegments

/-- A directory, by its path from a home folder that is there already. -/
structure Place where
  home : String
  base : String

namespace Place

def directory (place : Place) : String := Path.join place.home place.base

/-- The path of the configuration file. -/
def configuration (place : Place) : String := Path.join place.directory Configuration.fileName

/-- Whether the directory can be created. Each folder on the way to it is, but not for a dot that
ends the path: the folder before that dot has to be there for another reason. -/
def isCreatable (place : Place) : Bool :=
  let parts := Path.parts place.directory
  let names := parts.filter (!Path.isIdle ·)
  let passed := Path.passed [] (Path.parts place.home) ++ Path.passed [] names.dropLast
  Path.isAdmissible place.configuration &&
    (parts.reverse.find? (!·.isEmpty) != some "." || passed.contains (Path.follow [] names))

/-- The folders on the way to the directory, with it. -/
def folders (place : Place) : List (List String) := Path.passed [] (Path.parts place.directory)

/-- The configuration file, as names that lead to it. -/
def configurationNames (place : Place) : List String :=
  Path.follow [] (Path.parts place.configuration)

/-- One step along the path of a database: names are not too long, and no file is passed. -/
def step? (place : Place) (folder : List String) (part : String) : Option (List String) :=
  let next := Path.step folder part
  if Path.mostNameBytes < part.utf8ByteSize || next.tail == place.configurationNames then none
  else some next

/-- The names that lead to a database. Its path stands in an address, where a question mark ends
it and bytes are given by number. -/
def databaseNames? (place : Place) (path : String) : Option (List String) := do
  if path.toList.contains '?' then none
  let decoded ← Text.Percent.decode? path
  if decoded.toList.contains (Char.ofNat 0) then none
  (Path.parts decoded).foldlM place.step? []

/-- The bytes that are added to the name of a database for its journal. -/
def journalBytes : Nat := 8

/-- The most bytes of the path to a database. -/
def mostDatabaseBytes : Nat := 504

/-- Whether a database can be created under a path: in a folder that is there, where neither a
folder nor the configuration file has its name, and with room for its journal. -/
def canCreate (place : Place) (path : String) : Bool :=
  match place.databaseNames? path with
  | some (name :: folder) =>
    place.folders.contains folder && !place.folders.contains (name :: folder) &&
      name :: folder != place.configurationNames &&
      name.utf8ByteSize + journalBytes ≤ Path.mostNameBytes &&
      Path.bytes (name :: folder) ≤ mostDatabaseBytes
  | _ => false

end Place

end GraphSegments
