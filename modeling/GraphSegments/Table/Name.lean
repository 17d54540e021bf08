import GraphSegments.Digest
import GraphSegments.Query
import GraphSegments.Text.Cut

/-!
The names of segment tables: the prefix of the store, then half of the digest of the segment's URI.
-/

namespace GraphSegments.TableName

/-- How many digits of the digest a name has. -/
def digits : Nat := 32

def ofUri (start segmentUri : String) : String :=
  start ++ String.ofList ((Digest.hexDigits segmentUri).take digits)

def isHexDigit (c : Char) : Bool :=
  c.isDigit || ('a' ≤ c && c ≤ 'f') || ('A' ≤ c && c ≤ 'F')

/-- Whether a table of that name can hold a segment. -/
def isSegment (start name : String) : Bool :=
  match Text.stripText? start name with
  | some rest => rest.utf8ByteSize = digits && rest.toList.all isHexDigit
  | none => false

/-- The segment tables among some tables, in ascending order. -/
def segments (start : String) (names : List String) : List String :=
  (names.filter (isSegment start)).mergeSort

end GraphSegments.TableName
