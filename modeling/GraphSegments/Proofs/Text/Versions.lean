import GraphSegments.Ontology
import GraphSegments.Proofs.Text.Numerals

/-!
Versions as texts. The three numbers stand between marks, each in any of its texts; between dots, and
with white space around them at will, they are all that is read as a version.
-/

namespace GraphSegments.Version

variable {version : Version} {mark : Char} {chars : List Char}

/-- The numbers of a version, each in any of its texts, with a mark between them. -/
def IsJoined (version : Version) (mark : Char) (chars : List Char) : Prop :=
  ∃ major minor patch : List Char, chars = major ++ mark :: (minor ++ mark :: patch) ∧
    Text.IsNumeral version.major.toNat major ∧ Text.IsNumeral version.minor.toNat minor ∧
    Text.IsNumeral version.patch.toNat patch

theorem isJoined_toDigits (version : Version) (mark : Char) :
    version.IsJoined mark (Nat.toDigits 10 version.major.toNat ++ mark ::
      (Nat.toDigits 10 version.minor.toNat ++ mark :: Nat.toDigits 10 version.patch.toNat)) :=
  ⟨_, _, _, rfl, Text.isNumeral_toDigits _, Text.isNumeral_toDigits _, Text.isNumeral_toDigits _⟩

/-- Marks, digits and signs are all that a version is written with. -/
theorem IsJoined.not_mem (joined : version.IsJoined mark chars) {c : Char}
    (other : c.isDigit = false) (unsigned : c ≠ '+') (differs : c ≠ mark) : c ∉ chars := by
  obtain ⟨major, minor, patch, rfl, first, second, third⟩ := joined
  simp [differs, first.not_mem other unsigned, second.not_mem other unsigned,
    third.not_mem other unsigned]

theorem IsJoined.ne_nil (joined : version.IsJoined mark chars) : chars ≠ [] := by
  obtain ⟨_, _, _, rfl, -⟩ := joined
  simp

/-- A number of 32 bits is read from each of its texts. -/
theorem boundedNat?_component {n : UInt32} :
    Text.boundedNat? (Nat.pow 2 32) chars = some n.toNat ↔ Text.IsNumeral n.toNat chars := by
  rw [Text.boundedNat?_eq_some_iff]
  exact and_iff_right n.toNat_lt

theorem ofPieces?_eq_some_iff {major minor patch : List Char} :
    ofPieces? [major, minor, patch] = some version ↔ Text.IsNumeral version.major.toNat major ∧
      Text.IsNumeral version.minor.toNat minor ∧ Text.IsNumeral version.patch.toNat patch := by
  rw [← boundedNat?_component, ← boundedNat?_component, ← boundedNat?_component]
  constructor
  · intro made
    obtain ⟨first, major, made⟩ := Option.bind_eq_some_iff.1 made
    obtain ⟨second, minor, made⟩ := Option.bind_eq_some_iff.1 made
    obtain ⟨third, patch, made⟩ := Option.bind_eq_some_iff.1 made
    obtain rfl := Option.some.inj made
    have component {chars : List Char} {n : Nat}
        (read : Text.boundedNat? (Nat.pow 2 32) chars = some n) : (UInt32.ofNat n).toNat = n :=
      UInt32.toNat_ofNat_of_lt (Text.boundedNat?_eq_some_iff.1 read).1
    exact ⟨by rw [component major, major], by rw [component minor, minor],
      by rw [component patch, patch]⟩
  · intro read
    obtain ⟨major, minor, patch⟩ := read
    simp [ofPieces?, major, minor, patch]

/-- The pieces of a text are read as a version where its numbers stand between the marks. -/
theorem ofPieces?_pieces (other : mark.isDigit = false) (unsigned : mark ≠ '+') :
    ofPieces? (Text.pieces mark chars) = some version ↔ version.IsJoined mark chars := by
  constructor
  · intro made
    match split : Text.pieces mark chars with
    | [major, minor, patch] =>
      rw [split] at made
      obtain ⟨later, whole, split⟩ := Text.eq_append_of_pieces split
      obtain ⟨last, whole', split⟩ := Text.eq_append_of_pieces split
      refine ⟨major, minor, patch, ?_, ofPieces?_eq_some_iff.1 made⟩
      rw [whole, whole', Text.eq_of_pieces split]
    | [] | [_] | [_, _] | _ :: _ :: _ :: _ :: _ =>
      rw [split] at made
      cases made
  · rintro ⟨major, minor, patch, rfl, first, second, third⟩
    rw [Text.pieces_append (first.not_mem other unsigned),
      Text.pieces_append (second.not_mem other unsigned),
      Text.pieces_eq_singleton (third.not_mem other unsigned)]
    exact ofPieces?_eq_some_iff.2 ⟨first, second, third⟩

/-- The dotted texts of a version, with white space around them at will. -/
def IsWritten (version : Version) (raw : String) : Prop :=
  ∃ before chars after : List Char, raw.toList = before ++ (chars ++ after) ∧
    (∀ c ∈ before, Text.isBlank c = true) ∧ (∀ c ∈ after, Text.isBlank c = true) ∧
    version.IsJoined '.' chars

/-- A version is read from its dotted texts and from no others. -/
theorem read_eq_ok_iff {raw : String} : read raw = .ok version ↔ version.IsWritten raw := by
  have pieces : read raw = .ok version ↔ version.IsJoined '.' (Text.trim raw.toList) := by
    rw [← ofPieces?_pieces (by decide) (by decide), read]
    split
    next found made => simp [made]
    next none => simp [none]
  rw [pieces]
  constructor
  · intro joined
    obtain ⟨before, after, whole, blank, blank'⟩ := Text.exists_trim raw.toList
    exact ⟨before, _, after, whole, blank, blank', joined⟩
  · rintro ⟨before, chars, after, whole, blank, blank', joined⟩
    have visible : ∀ c ∈ chars, Text.isBlank c = false := by
      intro c listed
      by_contra white
      have digit : c.isDigit = false := by
        by_contra digit
        exact white (Text.isBlank_of_isDigit (by simpa using digit))
      have other {d : Char} (seen : Text.isBlank d = false) : c ≠ d := fun same =>
        white (same ▸ seen)
      exact joined.not_mem digit (other (by decide)) (other (by decide)) listed
    rw [whole, Text.trim_append blank blank' joined.ne_nil
      (fun c first => visible c (List.mem_of_head? first))
      fun c last => visible c (List.mem_of_getLast? last)]
    exact joined

/-- The text of a version is made of the digits of its components. -/
theorem toList_text (version : Version) :
    version.text.toList = Nat.toDigits 10 version.major.toNat ++ '.' ::
      (Nat.toDigits 10 version.minor.toNat ++ '.' :: Nat.toDigits 10 version.patch.toNat) := by
  simp [text]

/-- A version reads back from its text. -/
theorem read_text (version : Version) : read version.text = .ok version :=
  read_eq_ok_iff.2 ⟨[], _, [], by rw [toList_text, List.nil_append, List.append_nil],
    by simp, by simp, isJoined_toDigits version '.'⟩

/-- Versions are short texts. -/
theorem length_text_le (version : Version) : version.text.length ≤ 32 := by
  have component (n : UInt32) : (Nat.toDigits 10 n.toNat).length ≤ 10 := by
    rw [Nat.length_toDigits_le_iff (by decide) (by decide)]
    have below := n.toNat_lt
    omega
  have major := component version.major
  have minor := component version.minor
  have patch := component version.patch
  rw [← String.length_toList, toList_text]
  simp only [List.length_append, List.length_cons]
  omega

theorem toList_suffix (version : Version) :
    version.suffix.toList = '_' :: 'v' :: (Nat.toDigits 10 version.major.toNat ++ '_' ::
      (Nat.toDigits 10 version.minor.toNat ++ '_' :: Nat.toDigits 10 version.patch.toNat)) := by
  simp [suffix]

end GraphSegments.Version
