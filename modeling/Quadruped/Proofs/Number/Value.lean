import Quadruped.Proofs.Number.Representable

/-!
Finite doubles as rational numbers. Their order is that of their values, and a difference taken the
other way round has the opposite value, however it was rounded.
-/
namespace Quadruped.Number

open Float.Model Float.Model.UnpackedFloat

def rational : UnpackedFloat → ℚ
  | .finite sign mantissa exponent _ => sign.apply mantissa * 2 ^ exponent
  | _ => 0

/-- The exact value of a finite double. -/
def value (x : Float) : ℚ := rational (decoded x)

example : value (-0.75) = -3 / 4 := by decide +kernel

variable {x y : Float}

theorem fraction_eq (b : BitVec Format.binary64.numBits) :
    (unpackMantissa b).toNat = b.toNat % 2 ^ 52 := by
  simp [unpackMantissa, BitVec.extractLsb]

theorem sign_eq (b : BitVec Format.binary64.numBits) :
    Sign.ofBitVec (unpackSign b) = if 2 ^ 63 ≤ b.toNat then .negative else .positive := by
  have width : b.toNat < 2 ^ 64 := b.isLt
  have bit : (unpackSign b).toNat = b.toNat / 2 ^ 63 := by
    simp [unpackSign, BitVec.extractLsb, Nat.shiftRight_eq_div_pow]
    omega
  unfold Sign.ofBitVec
  split
  · rename_i zero
    rw [if_neg]
    rw [zero] at bit
    change 0 = _ at bit
    omega
  · rename_i one
    rw [if_pos]
    have set : (unpackSign b).toNat ≠ 0 := fun zero => one (BitVec.eq_of_toNat_eq zero)
    omega

/-- The fields of a finite double: its mantissa is full, or its exponent is the least one. -/
theorem decoded_finite (finite : isFinite x = true) :
    ∃ c k : ℕ, steps x = c * 2 ^ k ∧ c < 2 ^ 53 ∧ (2 ^ 52 ≤ c ∨ k = 0) ∧
      ((c = 0 ∧ ∃ sign, decoded x = .zero sign) ∨
        ∃ positive, decoded x =
          .finite (if isNegative x then .negative else .positive) c (k - 1074) positive) := by
  let b : BitVec Format.binary64.numBits := x.toModel.toBits.toBitVec
  have field : (unpackExponent b).toNat = magnitude x / 2 ^ 52 := field_eq b
  have fraction : (unpackMantissa b).toNat = magnitude x % 2 ^ 52 := by
    rw [fraction_eq]
    change _ = b.toNat % 2 ^ 63 % 2 ^ 52
    omega
  have sign : Sign.ofBitVec (unpackSign b) = if isNegative x then .negative else .positive := by
    rw [sign_eq]
    simp only [isNegative, decide_eq_true_eq]
    rfl
  have below : magnitude x < 2047 * 2 ^ 52 := of_decide_eq_true finite
  by_cases empty : unpackExponent b = 0#11
  · have low : magnitude x < 2 ^ 52 := by
      rw [empty] at field
      change 0 = _ at field
      omega
    have join := stepsOf_join (c := magnitude x) (k := 0) (by omega) (.inr rfl)
    rw [Nat.zero_mul, Nat.zero_add] at join
    rw [Nat.mod_eq_of_lt low] at fraction
    have read := unpack_subnormal empty
    rw [fraction, sign] at read
    exact ⟨magnitude x, 0, join, by omega, .inr rfl, read⟩
  · have value : unpackExponent b ≠ -1#11 := by
      intro full
      rw [full] at field
      change 2047 = _ at field
      omega
    have normal : (unpackExponent b).toNat ≠ 0 := fun zero => empty (BitVec.eq_of_toNat_eq zero)
    have split : (magnitude x / 2 ^ 52 - 1) * 2 ^ 52 + (2 ^ 52 + magnitude x % 2 ^ 52) =
        magnitude x := by omega
    have exponent : ((unpackExponent b).toNat : ℤ) - 1075 =
        ((magnitude x / 2 ^ 52 - 1 : ℕ) : ℤ) - 1074 := by omega
    have join := stepsOf_join (c := 2 ^ 52 + magnitude x % 2 ^ 52) (k := magnitude x / 2 ^ 52 - 1)
      (by omega) (.inl (by omega))
    rw [split] at join
    have read := unpack_normal value empty
    rw [fraction, sign, exponent] at read
    exact ⟨_, _, join, by omega, .inl (by omega), .inr read⟩

theorem value_eq (finite : isFinite x = true) : value x = signedSteps x / 2 ^ 1074 := by
  obtain ⟨c, k, whole, -, -, ⟨rfl, sign, read⟩ | ⟨positive, read⟩⟩ := decoded_finite finite
  · rw [value, read, signedSteps, whole]
    simp [rational]
  · rw [value, read, signedSteps, whole, rational, zpow_sub₀ two_ne_zero]
    cases isNegative x <;> simp [Sign.apply, mul_div_assoc, neg_div]

theorem scaled_lt {c d k l : ℕ} (order : k < l) (short : c < 2 ^ 53) (full : 2 ^ 52 ≤ d ∨ l = 0) :
    c * 2 ^ k < d * 2 ^ l := by
  have wide : 2 ^ 52 ≤ d := by omega
  calc c * 2 ^ k < 2 ^ 53 * 2 ^ k := Nat.mul_lt_mul_of_pos_right short (Nat.two_pow_pos k)
    _ = 2 ^ 52 * 2 ^ (k + 1) := by rw [Nat.pow_succ 2 k]; ring
    _ ≤ 2 ^ 52 * 2 ^ l := Nat.mul_le_mul_left _ (Nat.pow_le_pow_right two_pos order)
    _ ≤ d * 2 ^ l := Nat.mul_le_mul_right _ wide

theorem compare_scaled {c d k l : ℕ} (short : c < 2 ^ 53) (full : 2 ^ 52 ≤ c ∨ k = 0)
    (narrow : d < 2 ^ 53) (filled : 2 ^ 52 ≤ d ∨ l = 0) :
    (compare ((k : ℤ) - 1074) (l - 1074)).then (compare c d) =
      compare ((c * 2 ^ k : ℕ) : ℤ) (d * 2 ^ l : ℕ) := by
  rcases lt_trichotomy k l with less | rfl | greater
  · have exponents : compare ((k : ℤ) - 1074) (l - 1074) = .lt :=
      compare_lt_iff_lt.mpr (by omega)
    have steps : compare ((c * 2 ^ k : ℕ) : ℤ) (d * 2 ^ l : ℕ) = .lt :=
      compare_lt_iff_lt.mpr (Int.ofNat_lt.mpr (scaled_lt less short filled))
    rw [exponents, steps]
    rfl
  · have room : 0 < 2 ^ k := Nat.two_pow_pos k
    rw [compare_eq_iff_eq.mpr rfl, Ordering.then]
    rcases lt_trichotomy c d with less | rfl | greater
    · rw [compare_lt_iff_lt.mpr less, compare_lt_iff_lt.mpr]
      exact Int.ofNat_lt.mpr (Nat.mul_lt_mul_of_pos_right less room)
    · rw [compare_eq_iff_eq.mpr rfl, compare_eq_iff_eq.mpr rfl]
    · rw [compare_gt_iff_gt.mpr greater, compare_gt_iff_gt.mpr]
      exact Int.ofNat_lt.mpr (Nat.mul_lt_mul_of_pos_right greater room)
  · have exponents : compare ((k : ℤ) - 1074) (l - 1074) = .gt :=
      compare_gt_iff_gt.mpr (by omega)
    have steps : compare ((c * 2 ^ k : ℕ) : ℤ) (d * 2 ^ l : ℕ) = .gt :=
      compare_gt_iff_gt.mpr (Int.ofNat_lt.mpr (scaled_lt greater narrow full))
    rw [exponents, steps]
    rfl

theorem compare_finite (finite : isFinite x = true) (known : isFinite y = true) :
    (decoded x).compare (decoded y) = some (compare (signedSteps x) (signedSteps y)) := by
  obtain ⟨c, k, whole, short, full, left⟩ := decoded_finite finite
  obtain ⟨d, l, all, narrow, filled, right⟩ := decoded_finite known
  have scaled := compare_scaled short full narrow filled
  have some_steps {c k : ℕ} (positive : 0 < c) : (0 : ℤ) < (c * 2 ^ k : ℕ) :=
    Int.natCast_pos.mpr (Nat.mul_pos positive (Nat.two_pow_pos k))
  unfold signedSteps
  rw [whole, all]
  rcases left with ⟨rfl, sign, read⟩ | ⟨positive, read⟩ <;>
    rcases right with ⟨rfl, other, seen⟩ | ⟨nonzero, seen⟩ <;> rw [read, seen]
  · simp [UnpackedFloat.compare]
  · have above := some_steps (k := l) nonzero
    generalize ((d * 2 ^ l : ℕ) : ℤ) = b at above
    cases isNegative y
    · have order : compare (0 : ℤ) b = .lt := compare_lt_iff_lt.mpr above
      simp [UnpackedFloat.compare, order]
    · have order : compare (0 : ℤ) (-b) = .gt := compare_gt_iff_gt.mpr (by omega)
      simp [UnpackedFloat.compare, order]
  · have above := some_steps (k := k) positive
    generalize ((c * 2 ^ k : ℕ) : ℤ) = a at above
    cases isNegative x
    · have order : compare a 0 = .gt := compare_gt_iff_gt.mpr above
      simp [UnpackedFloat.compare, order]
    · have order : compare (-a) 0 = .lt := compare_lt_iff_lt.mpr (by omega)
      simp [UnpackedFloat.compare, order]
  · have above := some_steps (k := k) positive
    have beyond := some_steps (k := l) nonzero
    generalize ((c * 2 ^ k : ℕ) : ℤ) = a at above scaled
    generalize ((d * 2 ^ l : ℕ) : ℤ) = b at beyond scaled
    cases isNegative x <;> cases isNegative y
    · simp [UnpackedFloat.compare, scaled]
    · have order : compare a (-b) = .gt := compare_gt_iff_gt.mpr (by omega)
      simp [UnpackedFloat.compare, order]
    · have order : compare (-a) b = .lt := compare_lt_iff_lt.mpr (by omega)
      simp [UnpackedFloat.compare, order]
    · have order : compare (-a) (-b) = (compare a b).swap := by
        rw [Int.compare_swap]
        simp only [compare, compareOfLessAndEq, neg_lt_neg_iff, neg_inj, eq_comm]
      simp [UnpackedFloat.compare, scaled, order]

theorem le_iff_steps (finite : isFinite x = true) (known : isFinite y = true) :
    x ≤ y ↔ signedSteps x ≤ signedSteps y := by
  rw [le_iff_compare, compare_finite finite known, Option.some_inj, Option.some_inj,
    compare_lt_iff_lt, compare_eq_iff_eq, le_iff_lt_or_eq]

theorem lt_iff_steps (finite : isFinite x = true) (known : isFinite y = true) :
    x < y ↔ signedSteps x < signedSteps y := by
  rw [lt_iff_compare, compare_finite finite known, Option.some_inj, compare_lt_iff_lt]

theorem round_neg (sign : Sign) (m : ℕ) (e : ℤ) :
    UnpackedFloat.round .binary64 (-sign) m e = (UnpackedFloat.round .binary64 sign m e).neg := by
  unfold UnpackedFloat.round roundWithAccuracy
  dsimp only
  split <;> rfl

/-- Two values are opposite: of two zeros the signs do not matter. -/
inductive Opposite : UnpackedFloat → UnpackedFloat → Prop
  | neg (u : UnpackedFloat) : Opposite u u.neg
  | zero (sign other : Sign) : Opposite (.zero sign) (.zero other)

theorem normalize_opposite (m e : ℤ) :
    Opposite (UnpackedFloat.normalize .binary64 m e .positive)
      (UnpackedFloat.normalize .binary64 (-m) e .positive) := by
  unfold UnpackedFloat.normalize
  rcases lt_trichotomy m 0 with negative | rfl | positive
  · have order : compare m 0 = .lt := compare_lt_iff_lt.mpr negative
    have flipped : compare (-m) 0 = .gt := compare_gt_iff_gt.mpr (by omega)
    have turned : UnpackedFloat.round .binary64 .positive (-m).toNat e =
        (UnpackedFloat.round .binary64 .negative (-m).toNat e).neg := round_neg .negative _ e
    rw [order, flipped]
    dsimp only
    rw [turned]
    exact .neg _
  · exact .zero .positive .positive
  · have order : compare m 0 = .gt := compare_gt_iff_gt.mpr positive
    have flipped : compare (-m) 0 = .lt := compare_lt_iff_lt.mpr (by omega)
    have turned : UnpackedFloat.round .binary64 .negative m.toNat e =
        (UnpackedFloat.round .binary64 .positive m.toNat e).neg := round_neg .positive _ e
    rw [order, flipped, neg_neg]
    dsimp only
    rw [turned]
    exact .neg _

theorem sub_opposite {top : ℤ} {u v : UnpackedFloat} (first : Fits top u) (second : Fits top v) :
    Opposite (UnpackedFloat.sub .binary64 u v) (UnpackedFloat.sub .binary64 v u) := by
  cases u with
  | notANumber | infinity => exact first.elim
  | zero sign =>
    cases v with
    | notANumber | infinity => exact second.elim
    | zero other => cases sign <;> cases other <;> exact .zero _ _
    | finite other d l nonzero => cases other <;> exact .neg _
  | finite sign c k positive =>
    cases v with
    | notANumber | infinity => exact second.elim
    | zero other => exact .neg _
    | finite other d l nonzero =>
      have swapped := normalize_opposite
        (sign.apply (c <<< (k - min k l).toNat : ℕ) - other.apply (d <<< (l - min k l).toNat : ℕ))
        (min k l)
      rw [neg_sub] at swapped
      unfold UnpackedFloat.sub decreaseExponent
      dsimp only
      rwa [min_comm l k]

namespace Opposite

variable {u v : UnpackedFloat}

theorem packed (opposite : Opposite u v) :
    Opposite (UnpackedFloat.unpack .binary64 (UnpackedFloat.pack .binary64 u))
      (UnpackedFloat.unpack .binary64 (UnpackedFloat.pack .binary64 v)) := by
  cases opposite with
  | neg =>
    rw [unpack_pack_neg]
    exact .neg _
  | zero sign other =>
    change Opposite (UnpackedFloat.unpack _ (packedZero _ sign))
      (UnpackedFloat.unpack _ (packedZero _ other))
    rw [unpack_packedZero, unpack_packedZero]
    exact .zero sign other

theorem fits {top : ℤ} (opposite : Opposite u v) (first : Fits top u) : Fits top v := by
  cases opposite with
  | neg => cases u <;> exact first
  | zero => trivial

theorem rational_eq (opposite : Opposite u v) : rational v = -rational u := by
  cases opposite with
  | zero => simp [rational]
  | neg =>
    cases u with
    | notANumber | infinity | zero => simp [rational, UnpackedFloat.neg]
    | finite sign m e positive =>
      cases sign
      · change ((m : ℤ) : ℚ) * 2 ^ e = -(((-m : ℤ) : ℚ) * 2 ^ e)
        simp
      · change ((-m : ℤ) : ℚ) * 2 ^ e = -(((m : ℤ) : ℚ) * 2 ^ e)
        simp

end Opposite

theorem sub_swap (finite : isFinite x = true) (known : isFinite y = true)
    (difference : isFinite (x - y) = true) :
    isFinite (y - x) = true ∧ value (y - x) = -value (x - y) := by
  have opposite : Opposite (decoded (x - y)) (decoded (y - x)) :=
    (sub_opposite (within_of_isFinite finite) (within_of_isFinite known)).packed
  have within : Within 971 (y - x) := opposite.fits (within_of_isFinite difference)
  exact ⟨within.isFinite, opposite.rational_eq⟩

theorem le_iff_value (finite : isFinite x = true) (known : isFinite y = true) :
    x ≤ y ↔ value x ≤ value y := by
  have step : (0 : ℚ) < 2 ^ 1074 := by positivity
  rw [le_iff_steps finite known, value_eq finite, value_eq known, div_le_div_iff_of_pos_right step]
  exact Int.cast_le.symm

theorem lt_iff_value (finite : isFinite x = true) (known : isFinite y = true) :
    x < y ↔ value x < value y := by
  have step : (0 : ℚ) < 2 ^ 1074 := by positivity
  rw [lt_iff_steps finite known, value_eq finite, value_eq known, div_lt_div_iff_of_pos_right step]
  exact Int.cast_lt.symm

theorem value_neg (x : Float) : value (-x) = -value x := by
  unfold value
  rw [decoded_neg]
  exact (Opposite.neg (decoded x)).rational_eq

theorem lt_zero_iff_value (finite : isFinite x = true) :
    Scalar.lt x 0 = true ↔ value x < 0 := by
  have order : x < 0 ↔ value x < value 0 := lt_iff_value finite (by decide +kernel)
  rw [show value 0 = 0 by decide +kernel] at order
  exact decide_eq_true_iff.trans order

theorem absolute_value (finite : isFinite x = true) :
    isFinite (Scalar.absolute x) = true ∧ value (Scalar.absolute x) = |value x| := by
  unfold Scalar.absolute
  split
  · rename_i negative
    rw [value_neg, abs_of_neg ((lt_zero_iff_value finite).mp negative)]
    exact ⟨(within_of_isFinite finite).neg.isFinite, rfl⟩
  · rename_i positive
    rw [abs_of_nonneg (not_lt.mp (mt (lt_zero_iff_value finite).mpr positive))]
    exact ⟨finite, rfl⟩

theorem lt_of_lost (finite : isFinite x = true) (nonneg : 0 ≤ y) (lost : isFinite y = false) :
    x < y := by
  have infinite : decoded y = .infinity .positive := by
    rcases decoded_of_nonneg nonneg with infinite | ⟨sign, zero⟩ | ⟨m, e, positive, some⟩
    · exact infinite
    · have within : Within 0 y := show Fits 0 _ by rw [zero]; trivial
      exact absurd within.isFinite (by rw [lost]; decide)
    · have within : Within e y := show Fits e _ by rw [some]; exact le_refl e
      exact absurd within.isFinite (by rw [lost]; decide)
  rw [lt_iff_compare, infinite]
  rcases (within_of_isFinite finite).read with ⟨sign, zero⟩ | ⟨sign, m, e, positive, some, _⟩
  · rw [zero]; rfl
  · rw [some]; cases sign <;> rfl

end Quadruped.Number
