import GraphSegments.Proofs.Text.Numerals
import GraphSegments.Value.Point

/-!
The text of every number reads as a number, and so the text of every point as a point, also where
a coordinate is infinite or no number at all.
-/

namespace GraphSegments

namespace Text

/-- Characters that are not white space go to the word that is being read. -/
theorem wordsAfter_append {chars : List Char} (visible : ∀ c ∈ chars, isBlank c = false)
    (word rest : List Char) :
    wordsAfter word (chars ++ rest) = wordsAfter (chars.reverse ++ word) rest := by
  induction chars generalizing word with
  | nil => rfl
  | cons c chars ih =>
    obtain ⟨first, others⟩ := List.forall_mem_cons.1 visible
    rw [List.cons_append, wordsAfter, first, if_neg (by simp), ih others]
    simp

/-- Two texts without white space are the two words that they are joined to. -/
theorem words_pair {first second : List Char} (start : first ≠ []) (finish : second ≠ [])
    (visible : ∀ c ∈ first ++ second, isBlank c = false) :
    words (first ++ ' ' :: second) = [first, second] := by
  have inFirst : ∀ c ∈ first, isBlank c = false := fun c member =>
    visible c (List.mem_append_left _ member)
  have inSecond : ∀ c ∈ second, isBlank c = false := fun c member =>
    visible c (List.mem_append_right _ member)
  have blank : isBlank ' ' = true := by decide
  have last : wordsAfter [] second = [second] := by
    have read := wordsAfter_append inSecond [] []
    rw [List.append_nil] at read
    simp [read, wordsAfter, finish]
  simp [words, wordsAfter_append inFirst, wordsAfter, blank, start, last]

end Text

namespace NumberText

/-- Digits, or digits on both sides of a point. -/
def IsPositional (chars : List Char) : Prop :=
  ∃ whole fraction : List Char, whole ≠ [] ∧ (∀ c ∈ whole ++ fraction, c.isDigit = true) ∧
    (chars = whole ∨ chars = whole ++ '.' :: fraction)

/-- The leading digits end where no digit follows. -/
theorem spanDigits_append {digits : List Char} (all : ∀ c ∈ digits, c.isDigit = true)
    (rest : List Char) (other : ∀ c ∈ rest.head?, c.isDigit = false) :
    spanDigits (digits ++ rest) = (digits, rest) := by
  have none : rest.takeWhile Char.isDigit = [] ∧ rest.dropWhile Char.isDigit = rest := by
    cases rest with
    | nil => exact ⟨rfl, rfl⟩
    | cons c rest => simp [other c rfl]
  rw [spanDigits, List.takeWhile_append_of_pos all, List.dropWhile_append_of_pos all, none.1,
    none.2, List.append_nil]

namespace IsPositional

variable {chars : List Char} (positional : IsPositional chars)
include positional

theorem ne_nil : chars ≠ [] := by
  obtain ⟨whole, fraction, some, -, rfl | rfl⟩ := positional
  · exact some
  · exact List.append_ne_nil_of_left_ne_nil some _

theorem isDigit_or_eq {c : Char} (member : c ∈ chars) : c.isDigit = true ∨ c = '.' := by
  obtain ⟨whole, fraction, -, digits, rfl | rfl⟩ := positional
  · exact .inl (digits c (List.mem_append_left _ member))
  · rcases List.mem_append.1 member with member | member
    · exact .inl (digits c (List.mem_append_left _ member))
    · rcases List.mem_cons.1 member with rfl | member
      · exact .inr rfl
      · exact .inl (digits c (List.mem_append_right _ member))

theorem isBlank_eq_false {c : Char} (member : c ∈ chars) : Text.isBlank c = false := by
  rcases positional.isDigit_or_eq member with digit | rfl
  · exact Text.isBlank_of_isDigit digit
  · decide

theorem splitSign_eq : splitSign chars = (false, chars) := by
  cases chars with
  | nil => rfl
  | cons c rest =>
    have plain : c ≠ '-' ∧ c ≠ '+' := by
      rcases positional.isDigit_or_eq List.mem_cons_self with digit | rfl
      · exact ⟨fun same => absurd (same ▸ digit) (by decide),
          fun same => absurd (same ▸ digit) (by decide)⟩
      · decide
    unfold splitSign
    split
    next same => exact absurd (List.cons.inj same).1 plain.1
    next same => exact absurd (List.cons.inj same).1 plain.2
    next => rfl

/-- Positional digits read as a number. -/
theorem unsigned?_isSome (negative : Bool) : (unsigned? negative chars).isSome = true := by
  obtain ⟨whole, fraction, some, digits, shape⟩ := positional
  have inWhole : ∀ c ∈ whole, c.isDigit = true := fun c member =>
    digits c (List.mem_append_left _ member)
  have inFraction : ∀ c ∈ fraction, c.isDigit = true := fun c member =>
    digits c (List.mem_append_right _ member)
  have span := spanDigits_append inWhole [] (by simp)
  have pointed := spanDigits_append inWhole ('.' :: fraction)
    (fun c first => Option.some.inj first ▸ by decide)
  have later := spanDigits_append inFraction [] (by simp)
  rw [List.append_nil] at span later
  rcases shape with rfl | rfl
  · simp [unsigned?, span, some, exponent?]
  · simp [unsigned?, pointed, later, some, exponent?]

end IsPositional

/-- A text reads as a number if what follows its sign does. -/
theorem ofChars?_isSome {chars : List Char}
    (read : (unsigned? (splitSign chars).1 (splitSign chars).2).isSome = true) :
    (ofChars? chars).isSome = true := by
  unfold ofChars?
  dsimp only
  split
  next => rfl
  next =>
    split
    next => rfl
    next => exact read

end NumberText

namespace BinaryFormat

theorem isPositional_positional {digits : List Char} (some : digits ≠ [])
    (all : ∀ c ∈ digits, c.isDigit = true) (place : Int) :
    NumberText.IsPositional (positional digits place) := by
  have zeros (count : Nat) : ∀ c ∈ List.replicate count '0', c.isDigit = true := by
    intro c member
    rw [List.eq_of_mem_replicate member]
    decide
  unfold positional
  split
  next =>
    refine ⟨digits ++ List.replicate place.toNat '0', [],
      List.append_ne_nil_of_left_ne_nil some _, ?_, .inl rfl⟩
    rw [List.append_nil, List.forall_mem_append]
    exact ⟨all, zeros _⟩
  next =>
    dsimp only
    split
    next shorter =>
      refine ⟨_, _, ?_, ?_, .inr rfl⟩
      · rw [← List.length_pos_iff, List.length_take]
        omega
      · rw [List.take_append_drop]
        exact all
    next =>
      refine ⟨['0'], List.replicate _ '0' ++ digits, by simp, ?_, .inr rfl⟩
      rw [List.forall_mem_append, List.forall_mem_append]
      exact ⟨List.forall_mem_singleton.2 (by decide), zeros _, all⟩

/-- A number is written positionally with its sign in front, or as one of three words. -/
theorem toList_text (format : BinaryFormat) (pattern : Nat) :
    format.text pattern ∈ ["NaN", "inf", "-inf"] ∨ ∃ chars, NumberText.IsPositional chars ∧
      ((format.text pattern).toList = chars ∨ (format.text pattern).toList = '-' :: chars) := by
  unfold text
  split
  next => simp
  next negative _ => cases negative <;> simp
  next negative significand exponent _ =>
    dsimp only
    generalize written : (if significand = 0 then ['0'] else
      positional (Nat.toDigits 10 (format.shortestDigits significand exponent).1)
        (format.shortestDigits significand exponent).2) = chars
    refine .inr ⟨chars, ?_, ?_⟩
    · rw [← written]
      split
      next =>
        exact ⟨['0'], [], by simp, List.forall_mem_singleton.2 (by decide), .inl rfl⟩
      next =>
        exact isPositional_positional Nat.toDigits_ne_nil
          (fun c member => Text.isDigit_of_mem_toDigits member) _
    · cases negative
      · exact .inl String.toList_ofList
      · exact .inr String.toList_ofList

theorem ofChars?_text (format : BinaryFormat) (pattern : Nat) :
    (NumberText.ofChars? (format.text pattern).toList).isSome = true := by
  rcases format.toList_text pattern with word | ⟨chars, positional, written⟩
  · simp only [List.mem_cons, List.not_mem_nil, or_false] at word
    rcases word with word | word | word <;> rw [word] <;> decide
  · apply NumberText.ofChars?_isSome
    rcases written with written | written
    · rw [written, positional.splitSign_eq]
      exact positional.unsigned?_isSome _
    · rw [written]
      exact positional.unsigned?_isSome _

theorem isBlank_of_mem_text {format : BinaryFormat} {pattern : Nat} {c : Char}
    (member : c ∈ (format.text pattern).toList) : Text.isBlank c = false := by
  rcases format.toList_text pattern with word | ⟨chars, positional, written⟩
  · have visible : (["NaN", "inf", "-inf"].all fun word =>
        word.toList.all fun c => !Text.isBlank c) = true := by decide
    simpa using List.all_eq_true.1 (List.all_eq_true.1 visible _ word) c member
  · rcases written with written | written
    · exact positional.isBlank_eq_false (written ▸ member)
    · rcases List.mem_cons.1 (written ▸ member) with rfl | member
      · decide
      · exact positional.isBlank_eq_false member

theorem toList_text_ne_nil (format : BinaryFormat) (pattern : Nat) :
    (format.text pattern).toList ≠ [] := by
  rcases format.toList_text pattern with word | ⟨chars, positional, written⟩
  · simp only [List.mem_cons, List.not_mem_nil, or_false] at word
    rcases word with word | word | word <;> rw [word] <;> decide
  · rcases written with written | written <;> rw [written]
    · exact positional.ne_nil
    · exact List.cons_ne_nil _ _

end BinaryFormat

namespace GeoLocation

theorem exists_coordinate (number : Double) :
    ∃ same, coordinate number.text.toList = .ok same := by
  have read := BinaryFormat.ofChars?_text .double number.pattern
  obtain ⟨said, read⟩ := Option.isSome_iff_exists.1 read
  exact ⟨_, by rw [coordinate, String.ofList_toList, Double.ofText?, Double.text, read]; rfl⟩

theorem coordinates?_text (point : GeoLocation) :
    coordinates? point.text = some (point.longitude.text.toList, point.latitude.text.toList) := by
  have visible (number : Double) : ∀ c ∈ number.text.toList, Text.isBlank c = false :=
    fun _ member => BinaryFormat.isBlank_of_mem_text member
  have some (number : Double) : number.text.toList ≠ [] :=
    BinaryFormat.toList_text_ne_nil .double number.pattern
  have chars : point.text.toList = "POINT(".toList ++
      (point.longitude.text.toList ++ ' ' :: point.latitude.text.toList ++ [')']) := by
    simp [text]
  have trimmed : Text.trim point.text.toList = point.text.toList := by
    apply Text.trim_eq_self
    · intro c first
      rw [chars] at first
      exact Option.some.inj first ▸ by decide
    · intro c last
      rw [chars, ← List.append_assoc, List.getLast?_concat] at last
      exact Option.some.inj last ▸ by decide
  rw [coordinates?, trimmed, chars, Text.strip?_append]
  have pair := Text.words_pair (some point.longitude) (some point.latitude)
    (List.forall_mem_append.2 ⟨visible _, visible _⟩)
  simp [pair]

/-- The text of a point reads as a point. -/
theorem exists_read_text (point : GeoLocation) : ∃ same, read point.text = .ok same := by
  obtain ⟨latitude, first⟩ := exists_coordinate point.latitude
  obtain ⟨longitude, second⟩ := exists_coordinate point.longitude
  refine ⟨⟨latitude, longitude⟩, ?_⟩
  rw [read, coordinates?_text]
  simp only [first, second]
  rfl

end GeoLocation

end GraphSegments
