import GraphSegments.Text.Blank
import GraphSegments.Text.Cut
import Mathlib.Data.List.Basic
import Mathlib.Data.List.TakeWhile
import Mathlib.Data.String.Basic

/-!
Texts taken apart and put together again: what is cut off at a mark stands around that mark, a mark
stands behind every piece but the last, and trimming takes off white space only.
-/

namespace GraphSegments.Text

theorem strip?_eq_some_iff {start chars rest : List Char} :
    strip? start chars = some rest ↔ chars = start ++ rest := by
  induction start generalizing chars with
  | nil => simp [strip?]
  | cons s start ih =>
    cases chars with
    | nil => simp [strip?]
    | cons c chars => by_cases same : s = c <;> simp [strip?, ih, same, Ne.symm]

theorem strip?_append (start rest : List Char) : strip? start (start ++ rest) = some rest :=
  strip?_eq_some_iff.2 rfl

theorem stripText?_eq_some_iff {start text rest : String} :
    stripText? start text = some rest ↔ text = start ++ rest := by
  rw [stripText?, Option.map_eq_some_iff]
  constructor
  · rintro ⟨chars, stripped, rfl⟩
    rw [strip?_eq_some_iff] at stripped
    rw [← String.toList_inj, stripped, String.toList_append, String.toList_ofList]
  · rintro rfl
    rw [String.toList_append]
    exact ⟨rest.toList, strip?_append .., String.ofList_toList⟩

section First

variable {mark : Char} {chars : List Char}

theorem cutFirst?_eq_none (free : mark ∉ chars) : cutFirst? mark chars = none := by
  induction chars with
  | nil => rfl
  | cons c chars ih =>
    obtain ⟨differs, free⟩ := List.ne_and_not_mem_of_not_mem_cons free
    simp [cutFirst?, ih free, Ne.symm differs]

theorem cutFirst?_append (free : mark ∉ chars) (rest : List Char) :
    cutFirst? mark (chars ++ mark :: rest) = some (chars, rest) := by
  induction chars with
  | nil => simp [cutFirst?]
  | cons c chars ih =>
    obtain ⟨differs, free⟩ := List.ne_and_not_mem_of_not_mem_cons free
    simp [cutFirst?, ih free, Ne.symm differs]

end First

section Last

variable {first second : Char} {rest : List Char}

/-- No mark of two letters stands where the second one does not. -/
theorem cutLast?_eq_none (free : second ∉ rest) : cutLast? [first, second] rest = none := by
  induction rest with
  | nil => rfl
  | cons c rest ih =>
    obtain ⟨-, later⟩ := List.ne_and_not_mem_of_not_mem_cons free
    have absent : strip? [first, second] (c :: rest) = none := by
      rw [Option.eq_none_iff_forall_ne_some]
      intro after stripped
      rw [strip?_eq_some_iff] at stripped
      exact free (stripped ▸ by simp)
    simp [cutLast?, ih later, absent]

/-- The last mark is the one behind which the second letter does not occur. -/
theorem cutLast?_append (base : List Char) (differs : first ≠ second) (free : second ∉ rest) :
    cutLast? [first, second] (base ++ first :: second :: rest) = some (base, rest) := by
  induction base with
  | nil =>
    have none : cutLast? [first, second] (second :: rest) = none := by
      simp [cutLast?, cutLast?_eq_none free, strip?, differs]
    rw [List.nil_append, cutLast?, none]
    simp [strip?]
  | cons c base ih => simp [cutLast?, ih]

end Last

/-- A text that is cut has the mark where it is cut. -/
theorem eq_append_of_cutLast? {mark chars before after : List Char}
    (cut : cutLast? mark chars = some (before, after)) : chars = before ++ (mark ++ after) := by
  have here {chars before : List Char}
      (start : (strip? mark chars).map (fun after => (([] : List Char), after)) =
        some (before, after)) : chars = before ++ (mark ++ after) := by
    obtain ⟨_, stripped, same⟩ := Option.map_eq_some_iff.1 start
    obtain ⟨rfl, rfl⟩ := Prod.mk.inj same
    rw [strip?_eq_some_iff.1 stripped, List.nil_append]
  induction chars generalizing before with
  | nil => exact here cut
  | cons c chars ih =>
    unfold cutLast? at cut
    split at cut
    next first last found =>
      obtain ⟨rfl, rfl⟩ := Prod.mk.inj (Option.some.inj cut)
      rw [ih found]
      rfl
    next => exact here cut

section Pieces

variable {mark : Char} {chars piece next : List Char} {others : List (List Char)}

/-- A piece ends at the first mark. -/
theorem pieces_append {rest : List Char} (free : mark ∉ piece) :
    pieces mark (piece ++ mark :: rest) = piece :: pieces mark rest := by
  induction piece with
  | nil => simp [pieces]
  | cons c piece ih =>
    obtain ⟨differs, free⟩ := List.ne_and_not_mem_of_not_mem_cons free
    simp [pieces, ih free, Ne.symm differs]

theorem pieces_eq_singleton (free : mark ∉ piece) :
    pieces mark piece = [piece] := by
  induction piece with
  | nil => rfl
  | cons c piece ih =>
    obtain ⟨differs, free⟩ := List.ne_and_not_mem_of_not_mem_cons free
    simp [pieces, ih free, Ne.symm differs]

theorem pieces_ne_nil (mark : Char) (chars : List Char) : pieces mark chars ≠ [] := by
  cases chars with
  | nil => simp [pieces]
  | cons c chars =>
    unfold pieces
    split
    next => simp
    next => cases pieces mark chars <;> simp

/-- A mark stands behind every piece but the last. -/
theorem eq_append_of_pieces (split : pieces mark chars = piece :: next :: others) :
    ∃ rest, chars = piece ++ mark :: rest ∧ pieces mark rest = next :: others := by
  induction chars generalizing piece with
  | nil => simp [pieces] at split
  | cons c chars ih =>
    unfold pieces at split
    split at split
    next same =>
      obtain ⟨rfl, later⟩ := List.cons.inj split
      exact ⟨chars, by rw [same]; rfl, later⟩
    next =>
      cases found : pieces mark chars with
      | nil => exact absurd found (pieces_ne_nil mark chars)
      | cons first rest =>
        rw [found] at split
        obtain ⟨rfl, rfl⟩ := List.cons.inj split
        obtain ⟨rest, whole, later⟩ := ih found
        exact ⟨rest, by rw [whole]; rfl, later⟩

theorem eq_of_pieces (split : pieces mark chars = [piece]) : chars = piece := by
  induction chars generalizing piece with
  | nil => exact (List.cons.inj split).1
  | cons c chars ih =>
    unfold pieces at split
    split at split
    next => exact absurd (List.cons.inj split).2 (pieces_ne_nil mark chars)
    next =>
      cases found : pieces mark chars with
      | nil => exact absurd found (pieces_ne_nil mark chars)
      | cons first rest =>
        rw [found] at split
        obtain ⟨rfl, rfl⟩ := List.cons.inj split
        rw [ih found]

end Pieces

section Trim

variable {before chars after : List Char}

theorem dropWhile_isBlank_append (blank : ∀ c ∈ before, isBlank c = true)
    (start : ∀ c ∈ chars.head?, isBlank c = false) :
    (before ++ chars).dropWhile isBlank = chars := by
  rw [List.dropWhile_append_of_pos blank]
  cases chars with
  | nil => rfl
  | cons c rest => exact List.dropWhile_cons_of_neg (by simp [start c rfl])

/-- White space around a text that neither starts nor ends with it is taken off. -/
theorem trim_append (blank : ∀ c ∈ before, isBlank c = true)
    (blank' : ∀ c ∈ after, isBlank c = true) (some : chars ≠ [])
    (start : ∀ c ∈ chars.head?, isBlank c = false)
    (finish : ∀ c ∈ chars.getLast?, isBlank c = false) :
    trim (before ++ (chars ++ after)) = chars := by
  have first : (before ++ (chars ++ after)).dropWhile isBlank = chars ++ after := by
    apply dropWhile_isBlank_append blank
    rwa [List.head?_append_of_ne_nil _ some]
  have last : (after.reverse ++ chars.reverse).dropWhile isBlank = chars.reverse := by
    apply dropWhile_isBlank_append
    · simpa using blank'
    · simpa using finish
  rw [trim, first, List.reverse_append, last, List.reverse_reverse]

/-- Nothing is taken off a text that neither starts nor ends with white space. -/
theorem trim_eq_self (start : ∀ c ∈ chars.head?, isBlank c = false)
    (finish : ∀ c ∈ chars.getLast?, isBlank c = false) : trim chars = chars := by
  by_cases some : chars = []
  · subst some
    rfl
  · have whole : trim ([] ++ (chars ++ [])) = chars :=
      trim_append (by simp) (by simp) some start finish
    rwa [List.nil_append, List.append_nil] at whole

/-- Only white space is taken off. -/
theorem exists_trim (chars : List Char) :
    ∃ before after, chars = before ++ (trim chars ++ after) ∧
      (∀ c ∈ before, isBlank c = true) ∧ ∀ c ∈ after, isBlank c = true := by
  have first := List.takeWhile_append_dropWhile (p := isBlank) (l := chars)
  have last := List.takeWhile_append_dropWhile (p := isBlank)
    (l := (chars.dropWhile isBlank).reverse)
  refine ⟨chars.takeWhile isBlank, ((chars.dropWhile isBlank).reverse.takeWhile isBlank).reverse,
    ?_, fun c listed => List.mem_takeWhile_imp listed,
    fun c listed => List.mem_takeWhile_imp (List.mem_reverse.1 listed)⟩
  rw [trim, ← List.reverse_append, last, List.reverse_reverse, first]

end Trim

end GraphSegments.Text
