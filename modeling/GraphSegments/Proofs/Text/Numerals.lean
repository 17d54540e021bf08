import GraphSegments.Proofs.Text.Cuts
import Mathlib.Data.Nat.Digits.Defs

/-!
How numbers can be written: in digits, with zeros in front and a plus sign before them at will. A
number below the limit is read from these texts and from no others, its own digits among them.
-/

namespace GraphSegments.Text

theorem isDigit_of_mem_toDigits {n : Nat} {c : Char} (member : c ∈ Nat.toDigits 10 n) :
    c.isDigit = true :=
  Nat.isDigit_of_mem_toDigits (by decide) (by decide) member

theorem isBlank_of_isDigit {c : Char} (digit : c.isDigit = true) : isBlank c = false := by
  simp only [Char.isDigit, Bool.and_eq_true, decide_eq_true_eq] at digit
  have low : 48 ≤ c.toNat := by simpa using UInt32.le_iff_toNat_le.1 digit.1
  have high : c.toNat ≤ 57 := by simpa using UInt32.le_iff_toNat_le.1 digit.2
  simp only [isBlank, Bool.or_eq_false_iff, Bool.and_eq_false_iff, decide_eq_false_iff_not,
    beq_eq_false_iff_ne]
  omega

theorem digitChar_of_isDigit {c : Char} (digit : c.isDigit = true) :
    c.toNat - 48 < 10 ∧ Nat.digitChar (c.toNat - 48) = c := by
  have range : 48 ≤ c.toNat ∧ c.toNat ≤ 57 := Char.isDigit_iff_toNat.1 digit
  have small : c.toNat - 48 < 10 := by omega
  refine ⟨small, Char.toNat_inj.1 ?_⟩
  rw [Nat.toNat_digitChar_of_lt_ten small]
  omega

/-- Digits behind those of a positive number are the digits of the number that is read. -/
theorem toDigits_append {n : Nat} (positive : 0 < n) {digits : List Char}
    (all : ∀ c ∈ digits, c.isDigit = true) :
    Nat.toDigits 10 n ++ digits = Nat.toDigits 10 (Nat.ofDigitChars 10 digits n) := by
  induction digits generalizing n with
  | nil => simp
  | cons c digits ih =>
    obtain ⟨digit, all⟩ := List.forall_mem_cons.1 all
    obtain ⟨small, same⟩ := digitChar_of_isDigit digit
    have longer : Nat.toDigits 10 n ++ [c] = Nat.toDigits 10 (10 * n + (c.toNat - 48)) := by
      rw [← Nat.toDigits_append_toDigits (by decide) positive small, Nat.toDigits_of_lt_base small,
        same]
    calc
      _ = (Nat.toDigits 10 n ++ [c]) ++ digits := by rw [List.append_assoc, List.singleton_append]
      _ = Nat.toDigits 10 (Nat.ofDigitChars 10 digits (10 * n + (c.toNat - 48))) := by
        rw [longer, ih (by omega) all]
      _ = _ := by rw [Nat.ofDigitChars_cons]; rfl

/-- Some digits are those of the number that is read, with zeros in front. -/
theorem exists_zeros {digits : List Char} (some : digits ≠ [])
    (all : ∀ c ∈ digits, c.isDigit = true) :
    ∃ zeros, digits =
      List.replicate zeros '0' ++ Nat.toDigits 10 (Nat.ofDigitChars 10 digits 0) := by
  induction digits with
  | nil => exact absurd rfl some
  | cons c digits ih =>
    obtain ⟨digit, others⟩ := List.forall_mem_cons.1 all
    obtain ⟨small, same⟩ := digitChar_of_isDigit digit
    have value : Nat.ofDigitChars 10 (c :: digits) 0 =
        Nat.ofDigitChars 10 digits (c.toNat - 48) := by
      rw [Nat.ofDigitChars_cons, Nat.mul_zero, Nat.zero_add]
      rfl
    rw [value]
    by_cases zero : c = '0'
    · subst zero
      by_cases last : digits = []
      · exact ⟨0, by subst last; rfl⟩
      · obtain ⟨zeros, whole⟩ := ih last others
        exact ⟨zeros + 1, congrArg ('0' :: ·) whole⟩
    · have positive : 0 < c.toNat - 48 := by
        rw [Nat.pos_iff_ne_zero]
        intro none
        rw [none] at same
        exact zero same.symm
      refine ⟨0, ?_⟩
      rw [← toDigits_append positive others, Nat.toDigits_of_lt_base small, same]
      rfl

/-- The texts of a number: its digits, with zeros in front and a plus sign before them at will. -/
def IsNumeral (n : Nat) (chars : List Char) : Prop :=
  ∃ (sign : List Char) (zeros : Nat), (sign = [] ∨ sign = ['+']) ∧
    chars = sign ++ (List.replicate zeros '0' ++ Nat.toDigits 10 n)

theorem isNumeral_toDigits (n : Nat) : IsNumeral n (Nat.toDigits 10 n) :=
  ⟨[], 0, .inl rfl, rfl⟩

/-- What is read without a sign are the digits of a number, with zeros in front. -/
theorem read_unsigned_iff {digits : List Char} {n : Nat} :
    (digits ≠ [] ∧ (∀ c ∈ digits, c.isDigit = true) ∧ Nat.ofDigitChars 10 digits 0 = n) ↔
      ∃ zeros, digits = List.replicate zeros '0' ++ Nat.toDigits 10 n := by
  constructor
  · rintro ⟨some, all, rfl⟩
    exact exists_zeros some all
  · rintro ⟨zeros, rfl⟩
    refine ⟨by simp [Nat.toDigits_ne_nil], fun c listed => ?_, ?_⟩
    · rcases List.mem_append.1 listed with zero | digit
      · rw [List.eq_of_mem_replicate zero]
        decide
      · exact isDigit_of_mem_toDigits digit
    · rw [Nat.ofDigitChars_append, Nat.ofDigitChars_replicate_zero, Nat.mul_zero]
      exact Nat.ofDigitChars_ten_toDigits

theorem boundedNat?_eq_some_iff_zeros {limit n : Nat} {chars : List Char} :
    boundedNat? limit chars = some n ↔
      n < limit ∧ ∃ zeros, (strip? ['+'] chars).getD chars =
        List.replicate zeros '0' ++ Nat.toDigits 10 n := by
  generalize unsigned : (strip? ['+'] chars).getD chars = digits
  rw [← read_unsigned_iff, Nat.ofDigitChars_eq_foldl, boundedNat?, unsigned]
  simp only [Option.ite_none_left_eq_some, Bool.or_eq_true, List.isEmpty_iff, Bool.not_eq_true',
    decide_eq_true_eq, not_or, not_le, Option.some.injEq, Bool.not_eq_false, List.all_eq_true]
  constructor
  · rintro ⟨⟨⟨some, all⟩, below⟩, rfl⟩
    exact ⟨below, some, all, rfl⟩
  · rintro ⟨below, some, all, rfl⟩
    exact ⟨⟨⟨some, all⟩, below⟩, rfl⟩

/-- A number is read from its texts, if it is below the limit. -/
theorem boundedNat?_eq_some_iff {limit n : Nat} {chars : List Char} :
    boundedNat? limit chars = some n ↔ n < limit ∧ IsNumeral n chars := by
  rw [boundedNat?_eq_some_iff_zeros]
  apply and_congr_right
  intro below
  constructor
  · rintro ⟨zeros, same⟩
    cases signed : strip? ['+'] chars with
    | some digits =>
      rw [signed] at same
      exact ⟨['+'], zeros, .inr rfl, (strip?_eq_some_iff.1 signed).trans (congrArg _ same)⟩
    | none =>
      rw [signed] at same
      exact ⟨[], zeros, .inl rfl, same⟩
  · rintro ⟨sign, zeros, rfl | rfl, rfl⟩
    · have unsigned : strip? ['+'] (List.replicate zeros '0' ++ Nat.toDigits 10 n) = none := by
        rw [Option.eq_none_iff_forall_ne_some]
        intro digits signed
        have plus : '+' ∈ List.replicate zeros '0' ++ Nat.toDigits 10 n :=
          strip?_eq_some_iff.1 signed ▸ List.mem_cons_self
        exact absurd ((read_unsigned_iff.2 ⟨zeros, rfl⟩).2.1 '+' plus) (by decide)
      exact ⟨zeros, by rw [List.nil_append, unsigned]; rfl⟩
    · exact ⟨zeros, by rw [strip?_append]; rfl⟩

/-- A number is written in digits, with a plus sign at most. -/
theorem IsNumeral.isDigit_or {n : Nat} {chars : List Char} (numeral : IsNumeral n chars) {c : Char}
    (listed : c ∈ chars) : c.isDigit = true ∨ c = '+' := by
  obtain ⟨sign, zeros, rfl | rfl, rfl⟩ := numeral
  · exact .inl ((read_unsigned_iff.2 ⟨zeros, rfl⟩).2.1 c listed)
  · rcases List.mem_cons.1 listed with same | digit
    · exact .inr same
    · exact .inl ((read_unsigned_iff.2 ⟨zeros, rfl⟩).2.1 c digit)

theorem IsNumeral.not_mem {n : Nat} {chars : List Char} (numeral : IsNumeral n chars) {mark : Char}
    (other : mark.isDigit = false) (unsigned : mark ≠ '+') : mark ∉ chars := by
  intro listed
  rcases numeral.isDigit_or listed with digit | same
  · exact absurd digit (by simp [other])
  · exact unsigned same

end GraphSegments.Text
