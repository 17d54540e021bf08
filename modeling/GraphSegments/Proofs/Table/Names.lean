import Mathlib.Data.String.Basic
import GraphSegments.Configuration
import GraphSegments.Database
import GraphSegments.Proofs.Text.Points
import GraphSegments.Table.Name

/-!
The names of segment tables. Each has the prefix and 32 digits, so it is one that a segment can
have, it needs no marks to be read as one word, and letter case tells no two of them apart.
-/

namespace GraphSegments

namespace Digest

/-- The digits of digests. -/
def alphabet : List Char := "0123456789abcdef".toList

theorem digitChar_mem_alphabet : ∀ n < 16, Nat.digitChar n ∈ alphabet := by decide

theorem hexByte_subset (byte : UInt8) : ∀ c ∈ hexByte byte, c ∈ alphabet := by
  have high : byte.toNat / 16 < 16 := by
    have small := byte.toNat_lt
    omega
  have low : byte.toNat % 16 < 16 := Nat.mod_lt _ (by decide)
  intro c member
  simp only [hexByte, List.mem_cons, List.not_mem_nil, or_false] at member
  rcases member with rfl | rfl
  · exact digitChar_mem_alphabet _ high
  · exact digitChar_mem_alphabet _ low

theorem mem_alphabet {text : String} {c : Char} (member : c ∈ hexDigits text) : c ∈ alphabet := by
  obtain ⟨word, -, member⟩ := List.mem_flatMap.1 member
  obtain ⟨byte, -, member⟩ := List.mem_flatMap.1 member
  exact hexByte_subset byte c member

theorem length_hexDigits (text : String) : (hexDigits text).length = 64 := by
  have each (word : UInt32) : ((wordBytes word).flatMap hexByte).length = 8 := rfl
  rw [hexDigits, List.length_flatMap]
  simp only [each]
  simp

end Digest

namespace TableName

/-- The part of a table's name after the prefix. -/
def digitsOf (segmentUri : String) : List Char := (Digest.hexDigits segmentUri).take digits

theorem toList_ofUri (start segmentUri : String) :
    (ofUri start segmentUri).toList = start.toList ++ digitsOf segmentUri := by
  simp [ofUri, digitsOf]

theorem length_digitsOf (segmentUri : String) : (digitsOf segmentUri).length = digits := by
  rw [digitsOf, List.length_take, Digest.length_hexDigits]
  rfl

theorem length_ofUri (start segmentUri : String) :
    (ofUri start segmentUri).toList.length = start.toList.length + digits := by
  rw [toList_ofUri, List.length_append, length_digitsOf]

theorem mem_alphabet {segmentUri : String} {c : Char} (member : c ∈ digitsOf segmentUri) :
    c ∈ Digest.alphabet :=
  Digest.mem_alphabet (List.mem_of_mem_take member)

theorem utf8ByteSize_ofList_of_alphabet {chars : List Char}
    (plain : ∀ c ∈ chars, c ∈ Digest.alphabet) :
    (String.ofList chars).utf8ByteSize = chars.length := by
  have single : Digest.alphabet.all (fun c => c.utf8Size == 1) = true := by decide
  rw [String.utf8ByteSize_ofList]
  induction chars with
  | nil => rfl
  | cons c rest ih =>
    obtain ⟨here, later⟩ := List.forall_mem_cons.1 plain
    have width : c.utf8Size = 1 := beq_iff_eq.1 (List.all_eq_true.1 single c here)
    simp [String.utf8Len, ih later, width]

/-- The name made for a segment is one that a segment can have. -/
theorem isSegment_ofUri (start segmentUri : String) :
    isSegment start (ofUri start segmentUri) = true := by
  have rest : Text.stripText? start (ofUri start segmentUri) =
      some (String.ofList (digitsOf segmentUri)) := by
    rw [Text.stripText?, toList_ofUri, Text.strip?_append]
    rfl
  have hex : Digest.alphabet.all isHexDigit = true := by decide
  simp only [isSegment, rest, utf8ByteSize_ofList_of_alphabet fun _ => mem_alphabet,
    length_digitsOf, String.toList_ofList, decide_true, Bool.true_and, List.all_eq_true]
  exact fun c member => List.all_eq_true.1 hex c (mem_alphabet member)

/-- Letter case tells no two names with one prefix apart. -/
theorem sameName_ofUri {start first second : String} :
    Database.sameName (ofUri start first) (ofUri start second) = true ↔
      ofUri start first = ofUri start second := by
  have low : Digest.alphabet.all (fun c => c.toLower == c) = true := by decide
  have kept (segmentUri : String) :
      (digitsOf segmentUri).map Char.toLower = digitsOf segmentUri :=
    (List.map_congr_left fun c member =>
      beq_iff_eq.1 (List.all_eq_true.1 low c (mem_alphabet member))).trans (List.map_id _)
  refine ⟨fun same => ?_, fun same => by simp [Database.sameName, same]⟩
  have lists := String.ofList_injective (beq_iff_eq.1 same)
  rw [toList_ofUri, toList_ofUri, List.map_append, List.map_append, kept, kept] at lists
  rw [← String.toList_inj, toList_ofUri, toList_ofUri, List.append_cancel_left lists]

end TableName

end GraphSegments
