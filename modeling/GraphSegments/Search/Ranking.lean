import GraphSegments.Value

/-!
The order of hits, and a buffer that keeps the best of them.
-/

namespace GraphSegments

/-- What a hit is sorted by. Hits that are compared have keys of the same forms. -/
inductive HitKey where
  /-- The place of the segment in the query and of the match in the segment. -/
  | position (segment place : Nat)
  | text (uri : String)
  /-- The value of a property; missing ones come first. -/
  | value (found : Option Value)
  deriving DecidableEq, Repr, Inhabited

namespace HitKey

/-- The place of a form among the forms. -/
def rank : HitKey → Nat
  | position .. => 0
  | text _ => 1
  | value _ => 2

def order : HitKey → HitKey → Ordering
  | position s m, position t n => (compare s t).then (compare m n)
  | text a, text b => compare a b
  | value none, value none => .eq
  | value none, value (some _) => .lt
  | value (some _), value none => .gt
  | value (some a), value (some b) => a.order b
  | a, b => compare a.rank b.rank

end HitKey

/-- An object that matches. -/
structure Hit where
  uri : String
  /-- The place of its segment in the query. -/
  segment : Nat
  keys : List HitKey
  score : Double
  deriving DecidableEq, Repr, Inhabited

namespace Hit

/-- The order of two lists of keys: the first difference decides, reversed where asked. -/
def orderKeys : List HitKey → List HitKey → List Bool → Ordering
  | a :: as, b :: bs, reversed :: flags =>
    let ordering := if reversed then (a.order b).swap else a.order b
    ordering.then (orderKeys as bs flags)
  | _, _, _ => .eq

/-- The order of hits: by their keys, then the higher score first, then by URI. -/
def order (reverse : List Bool) (a b : Hit) : Ordering :=
  (orderKeys a.keys b.keys reverse).then
    ((b.score.totalCompare a.score).then (compare a.uri b.uri))

/-- Puts a hit into sorted hits, behind those that are not greater. -/
def insertInto (reverse : List Bool) (hit : Hit) : List Hit → List Hit
  | [] => [hit]
  | first :: rest =>
    if first.order reverse hit = .gt then hit :: first :: rest
    else first :: insertInto reverse hit rest

end Hit

/-- Keeps the best hits, as many as its capacity, in order. -/
structure RankBuffer where
  capacity : Nat
  reverse : List Bool
  hits : List Hit
  deriving DecidableEq, Repr

namespace RankBuffer

def empty (capacity : Nat) (reverse : List Bool) : RankBuffer := ⟨capacity, reverse, []⟩

/-- Takes a hit, and drops the last one if there are too many then. -/
def push (buffer : RankBuffer) (hit : Hit) : RankBuffer :=
  { buffer with hits := (hit.insertInto buffer.reverse buffer.hits).take buffer.capacity }

def pushAll (buffer : RankBuffer) (hits : List Hit) : RankBuffer := hits.foldl push buffer

end RankBuffer

end GraphSegments
