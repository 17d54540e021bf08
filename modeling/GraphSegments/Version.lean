/-!
Versions of ontologies: three numbers of 32 bits, ordered by the first that differs.
-/

namespace GraphSegments

/-- The version of an ontology. -/
structure Version where
  major : UInt32
  minor : UInt32
  patch : UInt32
  deriving DecidableEq, Repr, Inhabited

namespace Version

/-- The order of versions. -/
def order (a b : Version) : Ordering :=
  (compare a.major.toNat b.major.toNat).then
    ((compare a.minor.toNat b.minor.toNat).then (compare a.patch.toNat b.patch.toNat))

def isBelow (a b : Version) : Bool := a.order b == .lt

/-- The dotted text of a version. -/
def text (version : Version) : String :=
  toString version.major.toNat ++ "." ++ toString version.minor.toNat ++ "." ++
    toString version.patch.toNat

/-- What the namespace of an older version carries after the name of the domain. -/
def suffix (version : Version) : String :=
  "_v" ++ toString version.major.toNat ++ "_" ++ toString version.minor.toNat ++ "_" ++
    toString version.patch.toNat

end Version

end GraphSegments
