import GraphSegments.Double
import Mathlib.Order.Basic
import Mathlib.Tactic.Ring

/-!
Whole numbers as doubles. Their conversion never turns an order round, and up to 2 ^ 53 it keeps
whole numbers apart; beyond, it rounds neighbours to one double.
-/

namespace GraphSegments

namespace BinaryFormat

section Rounding

variable {a b d : Nat}

theorem le_roundHalfEven (a d : Nat) : a / d ≤ roundHalfEven a d := by
  unfold roundHalfEven
  dsimp only
  split <;> omega

theorem roundHalfEven_le (a d : Nat) : roundHalfEven a d ≤ a / d + 1 := by
  unfold roundHalfEven
  dsimp only
  split <;> omega

theorem roundHalfEven_one (a : Nat) : roundHalfEven a 1 = a := by
  simp [roundHalfEven, Nat.mod_one]

theorem roundHalfEven_mono (ordered : a ≤ b) (d : Nat) :
    roundHalfEven a d ≤ roundHalfEven b d := by
  rcases Nat.lt_or_ge (a / d) (b / d) with below | above
  · exact (roundHalfEven_le a d).trans (below.trans_le (le_roundHalfEven b d))
  · -- Of two numbers with one quotient the larger leaves more, so it is rounded up if the other is.
    have quotient : a / d = b / d := le_antisymm (Nat.div_le_div_right ordered) above
    have rest : a % d ≤ b % d := by
      have first := Nat.div_add_mod a d
      have second := Nat.div_add_mod b d
      rw [quotient] at first
      omega
    unfold roundHalfEven
    dsimp only
    rw [quotient]
    split <;> split <;> omega

end Rounding

/-! The magnitude that a whole number is rounded to. -/

/-- The significand of a whole number, scaled to the place of its leading bit and rounded. -/
def wholeSignificand (k : Nat) : Nat :=
  roundHalfEven (k * 2 ^ (52 - k.log2)) (2 ^ (k.log2 - 52))

theorem roundScaled_whole {k : Nat} (positive : 0 < k) :
    double.roundScaled k 0 =
      min double.infinity (wholeSignificand k + (k.log2 + 1022) * 2 ^ 52) := by
  have leading : leadingExponent k 1 = k.log2 := by
    have least : ¬ k < 2 ^ k.log2 := Nat.not_lt.2 (Nat.log2_self_le positive.ne')
    have one : Nat.log2 1 = 0 := rfl
    simp [leadingExponent, quotientBelow, one, least]
  have scale : max double.minExponent (leadingExponent k 1 + 1 - double.precision) =
      (k.log2 : Int) - 52 := by
    have format : double.minExponent = -1074 ∧ double.precision = 53 := by decide
    rw [leading, format.1, format.2]
    omega
  have step : double.minExponent = -1074 ∧ double.exponentStep = 2 ^ 52 := by decide
  have up : (-((k.log2 : Int) - 52)).toNat = 52 - k.log2 := by omega
  have down : ((k.log2 : Int) - 52).toNat = k.log2 - 52 := by omega
  have place : ((k.log2 : Int) - 52 - -1074).toNat = k.log2 + 1022 := by omega
  have whole : double.roundScaled k 0 = double.roundQuotient k 1 := by
    simp [roundScaled]
  rw [whole, roundQuotient, if_neg (by simp [positive.ne'])]
  simp only [scale, step.2, up, down, Nat.pow_eq, Nat.one_mul, wholeSignificand]
  rw [step.1, place]

theorem wholeSignificand_of_small {k : Nat} (small : k.log2 ≤ 52) :
    wholeSignificand k = k * 2 ^ (52 - k.log2) := by
  rw [wholeSignificand, Nat.sub_eq_zero_of_le small, Nat.pow_zero, roundHalfEven_one]

theorem le_wholeSignificand {k : Nat} (positive : 0 < k) : 2 ^ 52 ≤ wholeSignificand k := by
  have least := Nat.log2_self_le positive.ne'
  have scaled : 2 ^ 52 * 2 ^ (k.log2 - 52) ≤ k * 2 ^ (52 - k.log2) := by
    calc 2 ^ 52 * 2 ^ (k.log2 - 52) = 2 ^ k.log2 * 2 ^ (52 - k.log2) := by
          rw [← Nat.pow_add, ← Nat.pow_add]
          congr 1
          omega
      _ ≤ k * 2 ^ (52 - k.log2) := Nat.mul_le_mul_right _ least
  exact ((Nat.le_div_iff_mul_le (Nat.two_pow_pos _)).2 scaled).trans (le_roundHalfEven _ _)

theorem wholeSignificand_le (k : Nat) : wholeSignificand k ≤ 2 ^ 53 := by
  have scaled : k * 2 ^ (52 - k.log2) < 2 ^ 53 * 2 ^ (k.log2 - 52) := by
    calc k * 2 ^ (52 - k.log2) < 2 ^ (k.log2 + 1) * 2 ^ (52 - k.log2) :=
          Nat.mul_lt_mul_of_pos_right Nat.lt_log2_self (Nat.two_pow_pos _)
      _ = 2 ^ 53 * 2 ^ (k.log2 - 52) := by
          rw [← Nat.pow_add, ← Nat.pow_add]
          congr 1
          omega
  exact (roundHalfEven_le _ _).trans
    (Nat.succ_le_of_lt ((Nat.div_lt_iff_lt_mul (Nat.two_pow_pos _)).2 scaled))

theorem log2_mono {j k : Nat} (ordered : j ≤ k) : j.log2 ≤ k.log2 := by
  rcases Nat.eq_zero_or_pos j with rfl | positive
  · simp
  · exact (Nat.le_log2 (by omega)).2 ((Nat.log2_self_le positive.ne').trans ordered)

theorem roundScaled_mono {j k : Nat} (ordered : j ≤ k) :
    double.roundScaled j 0 ≤ double.roundScaled k 0 := by
  rcases Nat.eq_zero_or_pos j with rfl | positive
  · exact Nat.zero_le _
  · rw [roundScaled_whole positive, roundScaled_whole (positive.trans_le ordered)]
    apply min_le_min_left
    rcases (log2_mono ordered).eq_or_lt with same | below
    · rw [wholeSignificand, wholeSignificand, same]
      exact Nat.add_le_add_right (roundHalfEven_mono (Nat.mul_le_mul_right _ ordered) _) _
    · have first := wholeSignificand_le j
      have second := le_wholeSignificand (positive.trans_le ordered)
      have places : (j.log2 + 1 + 1022) * 2 ^ 52 ≤ (k.log2 + 1022) * 2 ^ 52 :=
        Nat.mul_le_mul_right _ (Nat.add_le_add_right below 1022)
      calc wholeSignificand j + (j.log2 + 1022) * 2 ^ 52
          ≤ 2 ^ 53 + (j.log2 + 1022) * 2 ^ 52 := Nat.add_le_add_right first _
        _ = 2 ^ 52 + (j.log2 + 1 + 1022) * 2 ^ 52 := by ring
        _ ≤ wholeSignificand k + (k.log2 + 1022) * 2 ^ 52 := Nat.add_le_add second places

theorem roundScaled_strictMono {j k : Nat} (ordered : j < k) (small : k ≤ 2 ^ 53) :
    double.roundScaled j 0 < double.roundScaled k 0 := by
  have positive : 0 < k := (Nat.zero_le j).trans_lt ordered
  have place : k.log2 ≤ 53 := by
    have bound : k.log2 < 54 := (Nat.log2_lt positive.ne').2 (small.trans_lt (by decide))
    omega
  have infinity : double.infinity = 2047 * 2 ^ 52 := by decide
  have most := wholeSignificand_le k
  have finite : wholeSignificand k + (k.log2 + 1022) * 2 ^ 52 ≤ double.infinity := by
    rw [infinity]
    generalize wholeSignificand k = rounded at most ⊢
    omega
  rw [roundScaled_whole positive, min_eq_right finite]
  rcases Nat.eq_zero_or_pos j with rfl | aboveZero
  · have zero : double.roundScaled 0 0 = 0 := by decide
    have least := le_wholeSignificand positive
    rw [zero]
    exact Nat.add_pos_left ((Nat.two_pow_pos 52).trans_le least) _
  · have within : j.log2 ≤ 52 := by
      have bound : j.log2 < 53 := (Nat.log2_lt aboveZero.ne').2 (ordered.trans_le small)
      omega
    rw [roundScaled_whole aboveZero]
    refine (min_le_right _ _).trans_lt ?_
    rcases (log2_mono ordered.le).eq_or_lt with same | below
    · rw [wholeSignificand_of_small within, wholeSignificand_of_small (same ▸ within), same]
      exact Nat.add_lt_add_right (Nat.mul_lt_mul_of_pos_right ordered (Nat.two_pow_pos _)) _
    · -- What is exact does not carry into the next place.
      have first : wholeSignificand j < 2 ^ 53 := by
        rw [wholeSignificand_of_small within]
        calc j * 2 ^ (52 - j.log2) < 2 ^ (j.log2 + 1) * 2 ^ (52 - j.log2) :=
              Nat.mul_lt_mul_of_pos_right Nat.lt_log2_self (Nat.two_pow_pos _)
          _ = 2 ^ 53 := by rw [← Nat.pow_add]; congr 1; omega
      have second := le_wholeSignificand positive
      generalize wholeSignificand j = one at first ⊢
      generalize wholeSignificand k = other at second ⊢
      omega

end BinaryFormat

namespace Double
open BinaryFormat

/-- The place of a whole number among the doubles. -/
theorem orderKey_ofInt (n : Int) :
    double.orderKey (ofInt n).pattern =
      if n < 0 then -(double.roundScaled n.natAbs 0 : Int) - 1
      else double.roundScaled n.natAbs 0 := by
  have bound : double.roundScaled n.natAbs 0 < 2 ^ 63 := by
    have infinity : double.infinity < 2 ^ 63 := by decide
    refine lt_of_le_of_lt ?_ infinity
    unfold roundScaled roundQuotient
    split
    · exact Nat.zero_le _
    · exact min_le_left _ _
  have sign : double.signPattern = 2 ^ 63 := by decide
  unfold ofInt
  generalize double.roundScaled n.natAbs 0 = size at bound
  have pattern (negative : Bool) :
      (ofPattern (double.signed negative size)).pattern = double.signed negative size := by
    have fits : double.signed negative size < 2 ^ 64 := by
      rw [signed, sign]
      split <;> omega
    exact UInt64.toNat_ofNat_of_lt fits
  rw [pattern]
  by_cases negative : n < 0
  · have rest : (2 ^ 63 + size) % 2 ^ 63 = size := by omega
    rw [decide_eq_true negative, signed, if_pos rfl, if_pos negative, orderKey, isNegative,
      magnitude, sign, rest, decide_eq_true (Nat.le_add_right _ _), if_pos rfl]
  · have rest : size % 2 ^ 63 = size := Nat.mod_eq_of_lt bound
    rw [decide_eq_false negative, signed, if_neg (by simp), if_neg negative, orderKey, isNegative,
      magnitude, sign, rest, decide_eq_false (Nat.not_le.2 bound), if_neg (by simp)]

theorem ofInt_mono {m n : Int} (ordered : m ≤ n) :
    double.orderKey (ofInt m).pattern ≤ double.orderKey (ofInt n).pattern := by
  rw [orderKey_ofInt, orderKey_ofInt]
  split
  next negative =>
    split
    next both =>
      have sizes : n.natAbs ≤ m.natAbs := by omega
      have rounded := roundScaled_mono sizes
      omega
    next => omega
  next positive =>
    rw [if_neg (by omega)]
    have sizes : m.natAbs ≤ n.natAbs := by omega
    exact Int.ofNat_le.2 (roundScaled_mono sizes)

theorem ofInt_strictMono {m n : Int} (ordered : m < n) (least : -2 ^ 53 ≤ m) (most : n ≤ 2 ^ 53) :
    double.orderKey (ofInt m).pattern < double.orderKey (ofInt n).pattern := by
  rw [orderKey_ofInt, orderKey_ofInt]
  split
  next negative =>
    split
    next both =>
      have sizes : n.natAbs < m.natAbs := by omega
      have rounded := roundScaled_strictMono sizes (by omega)
      omega
    next => omega
  next positive =>
    rw [if_neg (by omega)]
    have sizes : m.natAbs < n.natAbs := by omega
    exact Int.ofNat_lt.2 (roundScaled_strictMono sizes (by omega))

/-- Whole numbers in one place among the doubles are rounded to one double. -/
theorem ofInt_eq_of_orderKey {m n : Int}
    (same : double.orderKey (ofInt m).pattern = double.orderKey (ofInt n).pattern) :
    ofInt m = ofInt n := by
  rw [orderKey_ofInt, orderKey_ofInt] at same
  unfold ofInt
  generalize double.roundScaled m.natAbs 0 = first at same ⊢
  generalize double.roundScaled n.natAbs 0 = second at same ⊢
  split at same <;> split at same
  next negative also =>
    obtain rfl : first = second := by omega
    rw [decide_eq_true negative, decide_eq_true also]
  next => omega
  next => omega
  next positive also =>
    obtain rfl : first = second := by omega
    rw [decide_eq_false positive, decide_eq_false also]

/-- As doubles, whole numbers compare in their own order unless they are different numbers that are
rounded to one double. -/
theorem totalCompare_ofInt {m n : Int} (apart : m ≠ n → ofInt m ≠ ofInt n) :
    (ofInt m).totalCompare (ofInt n) = compare m n := by
  unfold totalCompare
  rcases lt_trichotomy m n with below | rfl | above
  · have strict := lt_of_le_of_ne (ofInt_mono below.le)
      fun same => apart below.ne (ofInt_eq_of_orderKey same)
    rw [compare_lt_iff_lt.2 strict, compare_lt_iff_lt.2 below]
  · rw [compare_eq_iff_eq.2 rfl, compare_eq_iff_eq.2 rfl]
  · have strict := lt_of_le_of_ne (ofInt_mono above.le)
      fun same => apart above.ne' (ofInt_eq_of_orderKey same).symm
    rw [compare_gt_iff_gt.2 strict, compare_gt_iff_gt.2 above]

theorem ofInt_ne {m n : Int} (different : m ≠ n) (small : m.natAbs ≤ 2 ^ 53)
    (also : n.natAbs ≤ 2 ^ 53) : ofInt m ≠ ofInt n := by
  intro same
  rcases lt_or_gt_of_ne different with below | above
  · exact (ofInt_strictMono below (by omega) (by omega)).ne (by rw [same])
  · exact (ofInt_strictMono above (by omega) (by omega)).ne (by rw [same])

end Double

end GraphSegments
