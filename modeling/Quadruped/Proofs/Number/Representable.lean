import Quadruped.Proofs.Number.Finite

/-!
Which numbers of steps a double can have. Such a number rounds to itself, so a finite double is its
sign and its steps; and what an exact remainder leaves is such a number again.
-/
namespace Quadruped.Number

open Float.Model Float.Model.UnpackedFloat

/-- The number of steps of a finite double. -/
def Representable (n : Nat) : Prop := ∃ m < infinity, stepsOf m = n

theorem stepsOf_join {c k : Nat} (short : c < 2 ^ 53) (full : 2 ^ 52 ≤ c ∨ k = 0) :
    stepsOf (k * 2 ^ 52 + c) = c * 2 ^ k := by
  have unit : twoTo 52 = 2 ^ 52 := rfl
  unfold stepsOf
  rw [unit]
  by_cases low : k * 2 ^ 52 + c < 2 ^ 52
  · obtain rfl : k = 0 := by omega
    rw [if_pos low]
    omega
  · have fraction : 2 ^ 52 + (k * 2 ^ 52 + c) % 2 ^ 52 = c := by omega
    have exponent : (k * 2 ^ 52 + c) / 2 ^ 52 - 1 = k := by omega
    rw [if_neg low, fraction, exponent]
    rfl

theorem stepsOf_split (m : Nat) :
    ∃ c k, m = k * 2 ^ 52 + c ∧ c < 2 ^ 53 ∧ (2 ^ 52 ≤ c ∨ k = 0) ∧ stepsOf m = c * 2 ^ k := by
  by_cases low : m < 2 ^ 52
  · have short : m < 2 ^ 53 := by omega
    have join := stepsOf_join short (.inr rfl)
    rw [Nat.zero_mul, Nat.zero_add] at join
    exact ⟨m, 0, by omega, short, .inr rfl, join⟩
  · have split : m = (m / 2 ^ 52 - 1) * 2 ^ 52 + (2 ^ 52 + m % 2 ^ 52) := by omega
    have short : 2 ^ 52 + m % 2 ^ 52 < 2 ^ 53 := by omega
    have full : 2 ^ 52 ≤ 2 ^ 52 + m % 2 ^ 52 := by omega
    have join := stepsOf_join (k := m / 2 ^ 52 - 1) short (.inl full)
    rw [← split] at join
    exact ⟨_, _, split, short, .inl full, join⟩

theorem magnitudeOf_stepsOf {m : Nat} (below : m < infinity) : magnitudeOf (stepsOf m) 0 = m := by
  obtain ⟨c, k, split, short, full, whole⟩ := stepsOf_split m
  have room : 0 < 2 ^ k := Nat.two_pow_pos k
  have drop : max 0 ((c * 2 ^ k).log2 - 52) = k := by
    rcases full with full | rfl
    · have low := Nat.mul_le_mul_right (2 ^ k) full
      have high := Nat.mul_lt_mul_of_pos_right short room
      have next : 53 + k = 52 + k + 1 := by omega
      rw [← Nat.pow_add] at low high
      rw [next] at high
      have log := (Nat.log2_eq_iff (by omega)).mpr ⟨low, high⟩
      omega
    · have log : (c * 2 ^ 0).log2 < 53 := by
        by_cases zero : c = 0
        · simp [zero]
        · rw [Nat.pow_zero, Nat.mul_one]
          exact (Nat.log2_lt zero).mpr short
      omega
  have whole_quotient : roundDiv (c * 2 ^ k) (twoTo k) = c := by
    unfold roundDiv
    simp [Nat.mul_div_cancel c room, room.ne]
  unfold magnitudeOf
  dsimp only
  rw [whole, drop, whole_quotient, Nat.sub_zero]
  exact (Nat.min_eq_left (split ▸ below.le)).trans split.symm

theorem representable_of_short {c : Nat} (short : c < 2 ^ 53) {k : Nat} (room : k ≤ 2045) :
    Representable (c * 2 ^ k) := by
  have top : infinity = 2047 * 2 ^ 52 := rfl
  -- a mantissa that is not full is doubled, and its exponent lowered
  induction k generalizing c with
  | zero => exact ⟨0 * 2 ^ 52 + c, by omega, stepsOf_join short (.inr rfl)⟩
  | succ k ih =>
    by_cases full : 2 ^ 52 ≤ c
    · exact ⟨(k + 1) * 2 ^ 52 + c, by omega, stepsOf_join short (.inl full)⟩
    · have again := ih (c := 2 * c) (by omega) (by omega)
      rwa [Nat.mul_comm 2 c, Nat.mul_assoc, ← Nat.pow_succ'] at again

theorem Representable.split {n : Nat} (representable : Representable n) :
    ∃ c k, n = c * 2 ^ k ∧ c < 2 ^ 53 ∧ k ≤ 2045 := by
  obtain ⟨m, below, rfl⟩ := representable
  have top : infinity = 2047 * 2 ^ 52 := rfl
  obtain ⟨c, k, split, short, full, whole⟩ := stepsOf_split m
  exact ⟨c, k, whole, short, by omega⟩

section signed
variable {m : Nat} (below : m < infinity) (negative : Bool)
include below

theorem toBits_signed :
    (signed negative m).toBits.toNat = if negative then 2 ^ 63 + m else m := by
  have top : infinity = 2047 * 2 ^ 52 := rfl
  have half : twoTo 63 = 2 ^ 63 := rfl
  generalize read : UInt64.ofNat (if negative then twoTo 63 + m else m) = bits
  have number : bits.toNat = if negative then 2 ^ 63 + m else m := by
    rw [← read, half, UInt64.toNat_ofNat_of_lt']
    change _ < 2 ^ 64
    split <;> omega
  let b : BitVec Format.binary64.numBits := bits.toBitVec
  have field : (unpackExponent b).toNat ≠ 2047 := by
    rw [field_eq, UInt64.toNat_toBitVec, number]
    split <;> omega
  have value : ¬ isNaNBits b = true := by
    rw [isNaNBits, decide_eq_true_eq]
    rintro ⟨full, _⟩
    exact field (congrArg BitVec.toNat full)
  have kept : (signed negative m).toBits = bits := by
    have packed := pack_unpack b
    rw [if_neg value] at packed
    unfold signed
    rw [read]
    exact congrArg UInt64.ofBitVec packed
  rw [kept, number]

theorem magnitude_signed : magnitude (signed negative m) = m := by
  have top : infinity = 2047 * 2 ^ 52 := rfl
  unfold magnitude
  change _ % 2 ^ 63 = m
  rw [toBits_signed below]
  split <;> omega

theorem isNegative_signed : isNegative (signed negative m) = negative := by
  have top : infinity = 2047 * 2 ^ 52 := rfl
  unfold isNegative
  change decide (2 ^ 63 ≤ _) = _
  rw [toBits_signed below]
  cases negative with
  | false =>
    apply decide_eq_false
    simp only [Bool.false_eq_true, if_false]
    omega
  | true =>
    apply decide_eq_true
    simp only [if_true]
    omega

end signed

theorem representable_steps {x : Float} (finite : isFinite x = true) : Representable (steps x) :=
  ⟨magnitude x, of_decide_eq_true finite, rfl⟩

theorem ofSteps_steps {x : Float} (finite : isFinite x = true) :
    ofSteps (isNegative x) (steps x) 0 = x := by
  have below : magnitude x < infinity := of_decide_eq_true finite
  rw [ofSteps, steps, magnitudeOf_stepsOf below, signed_magnitude]

theorem ofSteps_exact (negative : Bool) {n : Nat} (representable : Representable n) :
    isFinite (ofSteps negative n 0) = true ∧ isNegative (ofSteps negative n 0) = negative ∧
      steps (ofSteps negative n 0) = n := by
  obtain ⟨m, below, rfl⟩ := representable
  rw [ofSteps, magnitudeOf_stepsOf below]
  refine ⟨?_, isNegative_signed below negative, ?_⟩
  · exact decide_eq_true (by rwa [magnitude_signed below negative])
  · rw [steps, magnitude_signed below negative]

section leftOver
variable {a b : Nat}

theorem leftOver_small (positive : 0 < b) :
    2 * (leftOver a b).natAbs ≤ b ∧ (leftOver a b).natAbs ≤ a := by
  have split := Nat.div_add_mod a b
  have rest : a % b < b := Nat.mod_lt a positive
  unfold leftOver roundDiv
  dsimp only
  split
  · rename_i up
    simp only [Bool.or_eq_true, decide_eq_true_eq, Bool.and_eq_true, beq_iff_eq] at up
    rw [← Nat.cast_mul, Nat.mul_succ]
    omega
  · rename_i down
    simp only [Bool.or_eq_true, decide_eq_true_eq, not_or, not_lt] at down
    rw [← Nat.cast_mul]
    omega

theorem leftOver_self (short : 2 * a ≤ b) (positive : 0 < b) : leftOver a b = a := by
  have none_whole : a / b = 0 := Nat.div_eq_of_lt (by omega)
  have rest : a % b = a := Nat.mod_eq_of_lt (by omega)
  unfold leftOver roundDiv
  dsimp only
  rw [none_whole, rest, if_neg]
  · simp
  · simp only [Bool.or_eq_true, decide_eq_true_eq, Bool.and_eq_true, beq_iff_eq]
    omega

/-- The coarser of two grids that both numbers lie on holds what is left over; and either the first
number or the divisor shows that it is short on that grid. -/
theorem leftOver_representable (first : Representable a) (second : Representable b)
    (positive : 0 < b) : Representable (leftOver a b).natAbs := by
  obtain ⟨half, least⟩ := leftOver_small (a := a) positive
  obtain ⟨c, i, rfl, short, room⟩ := first.split
  obtain ⟨d, j, rfl, narrow, space⟩ := second.split
  have grid : 2 ^ min i j ∣ (leftOver (c * 2 ^ i) (d * 2 ^ j)).natAbs := by
    rw [← Int.natCast_dvd, leftOver]
    apply dvd_sub
    · exact Int.natCast_dvd_natCast.mpr (Dvd.dvd.mul_left (Nat.pow_dvd_pow 2 (min_le_left i j)) c)
    · apply Dvd.dvd.mul_right
      exact Int.natCast_dvd_natCast.mpr (Dvd.dvd.mul_left (Nat.pow_dvd_pow 2 (min_le_right i j)) d)
  obtain ⟨r, whole⟩ := grid
  rw [whole] at half least ⊢
  have tight : r < 2 ^ 53 := by
    rcases Nat.le_total i j with order | order
    · rw [min_eq_left order, Nat.mul_comm c] at least
      exact Nat.lt_of_le_of_lt (Nat.le_of_mul_le_mul_left least (Nat.two_pow_pos i)) short
    · rw [min_eq_right order, Nat.mul_left_comm, Nat.mul_comm d] at half
      have narrower := Nat.le_of_mul_le_mul_left half (Nat.two_pow_pos j)
      omega
  rw [Nat.mul_comm]
  exact representable_of_short tight (by omega)

end leftOver

def signedSteps (x : Float) : Int := if isNegative x then -steps x else steps x

@[simp] theorem natAbs_signedSteps (x : Float) : (signedSteps x).natAbs = steps x := by
  unfold signedSteps
  split <;> omega

theorem isNaN_of_isFinite {x : Float} (finite : isFinite x = true) : isNaN x = false := by
  simp only [isNaN, isFinite, decide_eq_false_iff_not, decide_eq_true_eq] at finite ⊢
  omega

theorem remainder_steps {x y : Float} (finite : isFinite x = true) (divisor : isFinite y = true)
    (positive : 0 < steps y) :
    ∃ w, remainder x y = some w ∧ isFinite w = true ∧ 2 * steps w ≤ steps y ∧
      (∃ n : Int, signedSteps w = signedSteps x - n * steps y) ∧
      (2 * steps x ≤ steps y → w = x) := by
  have left : remainder x y = some
      (ofSteps (if leftOver (steps x) (steps y) < 0 then !isNegative x else isNegative x)
        (leftOver (steps x) (steps y)).natAbs 0) := by
    unfold remainder
    simp [isNaN_of_isFinite finite, isNaN_of_isFinite divisor, finite, divisor, positive.ne']
  obtain ⟨known, sign, number⟩ := ofSteps_exact
    (if leftOver (steps x) (steps y) < 0 then !isNegative x else isNegative x)
    (leftOver_representable (representable_steps finite) (representable_steps divisor) positive)
  refine ⟨_, left, known, ?_, ?_, fun short => ?_⟩
  · rw [number]
    exact (leftOver_small positive).1
  · refine ⟨if isNegative x then -roundDiv (steps x) (steps y) else roundDiv (steps x) (steps y), ?_⟩
    rw [signedSteps, sign, number, signedSteps]
    have rest : leftOver (steps x) (steps y) = steps x - roundDiv (steps x) (steps y) * steps y := by
      rw [leftOver, Int.mul_comm]
    generalize leftOver (steps x) (steps y) = r at rest ⊢
    cases isNegative x <;> by_cases below : r < 0 <;>
      simp only [below, if_true, if_false, Bool.not_true, Bool.not_false, Bool.false_eq_true,
        Int.neg_mul] <;> omega
  · have whole := leftOver_self short positive
    rw [whole, if_neg (by omega), Int.natAbs_natCast, ofSteps_steps finite]

end Quadruped.Number
