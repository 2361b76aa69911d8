import Quadruped.Proofs.Number.Double

/-!
A double and its bits: the sign and the magnitude, which is all that the exact remainder looks at.
-/
namespace Quadruped.Number

theorem bits_split (x : Float) :
    x.toBits.toNat = (if isNegative x then twoTo 63 else 0) + magnitude x := by
  have small : x.toBits.toNat < twoTo 64 := x.toBits.toNat_lt
  have pow : twoTo 64 = 2 * twoTo 63 := by rfl
  unfold isNegative magnitude
  by_cases negative : twoTo 63 ≤ x.toBits.toNat
  · have half : x.toBits.toNat / twoTo 63 = 1 := by
      apply Nat.div_eq_of_lt_le <;> omega
    have split := Nat.div_add_mod x.toBits.toNat (twoTo 63)
    rw [half] at split
    simp only [negative, decide_true, if_true]
    omega
  · rw [Nat.mod_eq_of_lt (by omega)]
    simp [negative]

theorem signed_magnitude (x : Float) : signed (isNegative x) (magnitude x) = x := by
  have bits : UInt64.ofNat (if isNegative x then twoTo 63 + magnitude x else magnitude x) =
      x.toBits := by
    have split := bits_split x
    rw [← UInt64.ofNat_toNat (x := x.toBits), split]
    cases isNegative x <;> simp
  unfold signed
  rw [bits]
  exact Float.ofBits_toBits x

theorem infinite_of_lost {x : Float} (value : isNaN x = false) (lost : isFinite x = false) :
    ∃ negative, x = infinite negative := by
  have at_infinity : magnitude x = infinity := by
    simp only [isNaN, isFinite, decide_eq_false_iff_not] at value lost
    omega
  refine ⟨isNegative x, ?_⟩
  rw [infinite, ← at_infinity, signed_magnitude]

theorem remainder_fails {x y : Float} (divisor : isFinite y = true) (nonzero : steps y ≠ 0)
    (number : isNaN y = false) :
    remainder x y = none ↔ ∃ negative, x = infinite negative := by
  constructor
  · intro fails
    unfold remainder at fails
    cases value : isNaN x with
    | true => simp [value] at fails
    | false =>
      cases finite : isFinite x with
      | true => simp [value, finite, divisor, nonzero, number] at fails
      | false => exact infinite_of_lost value finite
  · rintro ⟨negative, rfl⟩
    have value : isNaN (infinite negative) = false := by cases negative <;> decide +kernel
    have lost : isFinite (infinite negative) = false := by cases negative <;> decide +kernel
    simp [remainder, value, lost, number]

end Quadruped.Number
