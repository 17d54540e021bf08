import GraphSegments.Error
import GraphSegments.Table.Column

/-!
Texts too long for their column are replaced by a marker and kept in the column for full texts.
-/

namespace GraphSegments

namespace Overflow

/-- Stands in a text column for a text that is kept elsewhere. -/
def marker : String := ":::TEXT:::"

/-- The longest text that stays in its column. -/
def threshold : Nat := 5000

/-- Whether a stored value stands for a text that is kept elsewhere. -/
def isMarked : Value → Bool
  | .string text | .other text => text == marker
  | _ => false

/-- A text value of a kind; every kind but one gives a string. -/
def ofText (kind : ValueKind) (text : String) : Value :=
  match kind with
  | .other => .other text
  | _ => .string text

/-- Where full texts are found while a row is read. -/
inductive Mode where
  /-- They come with the row. -/
  | inline
  /-- They are asked for later. -/
  | deferred
  deriving DecidableEq, Repr, Inhabited

end Overflow

/-- A value as its columns hold it. -/
structure Encoded where
  column : Column
  stored : Value
  fullText : Option String
  deriving DecidableEq, Repr

namespace Encoded

/-- The text of a value that does not fit into its column. -/
def overflow? : Value → Option String
  | .string text | .other text => if text.length > Overflow.threshold then some text else none
  | _ => none

/-- Puts a value into its column, and a long text into the column for full texts. -/
def ofValue (value : Value) (multi : Bool) : Encoded :=
  match overflow? value with
  | some text =>
    ⟨.value value.kind multi, Overflow.ofText value.kind Overflow.marker, some text⟩
  | none => ⟨.value value.kind multi, value, none⟩

end Encoded

/-- A value read back, or the kind of one whose text is still to come. -/
inductive Decoded where
  | ready (value : Value)
  | deferred (kind : ValueKind)
  deriving DecidableEq, Repr

namespace Overflow

/-- Reads back a stored value whose full text comes with it. -/
def restore (stored : Value) (fullText : Option String) : Except Error Value :=
  if isMarked stored then
    match fullText with
    | some text => .ok (ofText stored.kind text)
    | none => .error (.integrity .missingFullText)
  else .ok stored

end Overflow

/-- Reads a stored value back. -/
def Decoded.ofStored (stored : Value) (fullText : Option String) (mode : Overflow.Mode) :
    Except Error Decoded :=
  match mode with
  | .deferred => .ok (if Overflow.isMarked stored then .deferred stored.kind else .ready stored)
  | .inline => do return .ready (← Overflow.restore stored fullText)

end GraphSegments
