import GraphSegments.Text.Cut

/-!
Paths of files: names between slashes, of which a dot stands for the folder reached so far and two
dots lead to the folder above it. A folder is the list of names that lead to it, the last one
first.
-/

namespace GraphSegments.Path

/-- A path in a directory. Absolute paths stand for themselves. -/
def join (directory path : String) : String :=
  if path.startsWith "/" then path
  else if directory.isEmpty || directory.endsWith "/" then directory ++ path
  else directory ++ "/" ++ path

/-- What stands between the slashes of a path. -/
def parts (path : String) : List String := (Text.pieces '/' path.toList).map String.ofList

/-- Whether a part of a path stays where it is. -/
def isIdle (part : String) : Bool := part.isEmpty || part == "."

/-- Where one part of a path leads to from a folder. -/
def step (folder : List String) (part : String) : List String :=
  if isIdle part then folder
  else if part = ".." then folder.tail
  else part :: folder

/-- Where the parts of a path lead to from a folder. -/
def follow (folder : List String) (parts : List String) : List String := parts.foldl step folder

/-- The folders that the parts of a path pass, the first and the last one included. -/
def passed (folder : List String) : List String → List (List String)
  | [] => [folder]
  | part :: rest => folder :: passed (step folder part) rest

/-- The most bytes of a name. -/
def mostNameBytes : Nat := 255

/-- The most bytes of a path. -/
def mostBytes : Nat := 4095

/-- Whether the system takes a path at all. -/
def isAdmissible (path : String) : Bool :=
  !path.toList.contains (Char.ofNat 0) && path.utf8ByteSize ≤ mostBytes &&
    (parts path).all (·.utf8ByteSize ≤ mostNameBytes)

/-- The bytes of the path to a folder. -/
def bytes (folder : List String) : Nat :=
  folder.foldl (fun size name => size + (name.utf8ByteSize + 1)) 0

/-- The last step of a passage is where the parts lead to. -/
theorem follow_mem_passed (folder parts : List String) :
    follow folder parts ∈ passed folder parts := by
  induction parts generalizing folder with
  | nil => simp [follow, passed]
  | cons part rest found => exact List.mem_cons_of_mem _ (found (step folder part))

end GraphSegments.Path
