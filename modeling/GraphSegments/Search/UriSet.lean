/-!
Sets of URIs: lists without repetition in ascending order.
-/

namespace GraphSegments

/-- A set of URIs. -/
abbrev UriSet := List String

namespace UriSet

def ofList (uris : List String) : UriSet := uris.eraseDups.mergeSort

def inter (a b : UriSet) : UriSet := a.filter b.contains

def diff (a b : UriSet) : UriSet := a.filter fun uri => !b.contains uri

def union (a b : UriSet) : UriSet := ofList (a ++ b)

theorem mem_ofList {uri : String} {uris : List String} : uri ∈ ofList uris ↔ uri ∈ uris := by
  simp [ofList]

theorem mem_inter {uri : String} {a b : UriSet} : uri ∈ inter a b ↔ uri ∈ a ∧ uri ∈ b := by
  simp [inter]

theorem mem_diff {uri : String} {a b : UriSet} : uri ∈ diff a b ↔ uri ∈ a ∧ uri ∉ b := by
  simp [diff]

theorem mem_union {uri : String} {a b : UriSet} : uri ∈ union a b ↔ uri ∈ a ∨ uri ∈ b := by
  simp [union, mem_ofList]

end UriSet

end GraphSegments
