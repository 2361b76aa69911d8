import Mathlib.Algebra.Order.Ring.Nat
import Quadruped.Number.Steps

/-!
A decimal is read early where its power of ten would be too large to take. The double read there is
the one that the power would lead to.
-/
namespace Quadruped.Number

theorem two_pow_le_tenTo (k : Nat) : 2 ^ (3 * k) ≤ tenTo k := by
  rw [Nat.pow_mul]
  exact Nat.pow_le_pow_left (by decide) k

theorem log2_scaled {m : Nat} (positive : m ≠ 0) (e t : Nat) :
    m.log2 + 3 * e + t ≤ (m * tenTo e * twoTo t).log2 := by
  have low : 2 ^ (m.log2 + 3 * e + t) ≤ m * tenTo e * twoTo t := by
    rw [Nat.pow_add, Nat.pow_add]
    exact Nat.mul_le_mul_right _ (Nat.mul_le_mul (Nat.log2_self_le positive) (two_pow_le_tenTo e))
  have some_bits := Nat.lt_of_lt_of_le (Nat.two_pow_pos _) low
  exact (Nat.le_log2 (Nat.ne_of_gt some_bits)).mpr low

theorem quotient_lt {m k t s : Nat} (small : m.log2 + 1 + t ≤ 3 * k + s) :
    m * twoTo t / tenTo k < 2 ^ s := by
  refine Nat.div_lt_of_lt_mul ?_
  calc m * 2 ^ t < 2 ^ (m.log2 + 1) * 2 ^ t :=
        Nat.mul_lt_mul_of_pos_right Nat.lt_log2_self (Nat.two_pow_pos _)
    _ = 2 ^ (m.log2 + 1 + t) := (Nat.pow_add ..).symm
    _ ≤ 2 ^ (3 * k + s) := Nat.pow_le_pow_right (by decide) small
    _ = 2 ^ (3 * k) * 2 ^ s := Nat.pow_add ..
    _ ≤ tenTo k * 2 ^ s := Nat.mul_le_mul_right _ (two_pow_le_tenTo k)

theorem magnitudeOf_huge {n : Nat} (bits : 2098 ≤ n.log2) : magnitudeOf n 0 = infinity := by
  have positive : n ≠ 0 := by
    rintro rfl
    simp at bits
  have full : 2 ^ 52 ≤ n / twoTo (n.log2 - 52) := by
    refine (Nat.le_div_iff_mul_le (Nat.two_pow_pos _)).mpr ?_
    rw [← Nat.pow_add, show 52 + (n.log2 - 52) = n.log2 by omega]
    exact Nat.log2_self_le positive
  have rounded : n / twoTo (n.log2 - 52) ≤ roundDiv n (twoTo (n.log2 - 52)) := by
    unfold roundDiv
    dsimp only
    split <;> omega
  unfold magnitudeOf
  dsimp only
  rw [Nat.max_eq_right (Nat.zero_le _), Nat.sub_zero]
  refine Nat.min_eq_right ?_
  change 2047 * 2 ^ 52 ≤ (n.log2 - 52) * 2 ^ 52 + _
  omega

theorem magnitudeOf_tiny {n extra : Nat} (tiny : 2 * n < twoTo extra) :
    magnitudeOf n extra = 0 := by
  have short : n.log2 - 52 ≤ extra := by
    by_cases zero : n = 0
    · simp [zero]
    · have small : n < 2 ^ extra := by
        change 2 * n < 2 ^ extra at tiny
        omega
      have log := (Nat.log2_lt zero).mpr small
      omega
  have below : n < twoTo extra := by omega
  have nothing : roundDiv n (twoTo extra) = 0 := by
    unfold roundDiv
    dsimp only
    rw [Nat.mod_eq_of_lt below, Nat.div_eq_of_lt below]
    simp only [decide_eq_true_eq, Bool.or_eq_true, Bool.and_eq_true, beq_iff_eq]
    exact if_neg (by omega)
  unfold magnitudeOf
  dsimp only
  rw [Nat.max_eq_left short, nothing, Nat.sub_self, Nat.zero_mul]
  exact Nat.zero_min _

theorem ofDecimal_whole (negative : Bool) (m e : Nat) :
    ofDecimal negative m e = ofSteps negative (m * tenTo e * twoTo 1074) 0 := by
  unfold ofDecimal
  by_cases zero : m = 0
  · rw [if_pos zero, zero, Nat.zero_mul, Nat.zero_mul, ofSteps, magnitudeOf_tiny (by decide)]
  rw [if_neg zero, if_pos (Int.natCast_nonneg e), Int.toNat_natCast]
  by_cases huge : 1024 ≤ m.log2 + 3 * e
  · have bits := log2_scaled zero e 1074
    rw [if_pos huge, ofSteps, magnitudeOf_huge (by omega)]
    rfl
  · rw [if_neg huge]

theorem ofDecimal_fraction (negative : Bool) (m : Nat) {k : Nat} (fraction : 0 < k) :
    ofDecimal negative m (-k) =
      ofSteps negative (2 * (m * twoTo 1138 / tenTo k) +
        (if m * twoTo 1138 % tenTo k = 0 then 0 else 1)) 65 := by
  unfold ofDecimal
  by_cases zero : m = 0
  · rw [if_pos zero, zero, Nat.zero_mul, Nat.zero_div, Nat.zero_mod, if_pos rfl, ofSteps,
      magnitudeOf_tiny (by decide)]
  have below : ¬ (0 : Int) ≤ -k := by omega
  rw [if_neg zero, if_neg below]
  dsimp only
  rw [Int.neg_neg, Int.toNat_natCast]
  by_cases tiny : m.log2 + 1076 ≤ 3 * k
  · have quotient : m * twoTo 1138 / tenTo k < 2 ^ 63 := quotient_lt (by omega)
    have sticky : (if m * twoTo 1138 % tenTo k = 0 then 0 else 1) ≤ 1 := by split <;> omega
    have half : twoTo 65 = 2 ^ 65 := rfl
    rw [if_pos tiny, ofSteps, magnitudeOf_tiny (by omega)]
  · rw [if_neg tiny]

end Quadruped.Number
