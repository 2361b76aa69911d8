import Mathlib
import Quadruped.Number.Double

/-!
Doubles as an order. A negation turns the sign of a double and nothing else, although the result is
written in its fields and read again. A number that is no value compares with nothing, and the two
zeros are equal.
-/
namespace Quadruped.Number

open Float.Model Float.Model.UnpackedFloat

theorem unpack_neg (sign : Sign) (exponent : BitVec 11) (mantissa : BitVec 52) :
    (UnpackedFloat.unpack .binary64 (packComponents .binary64 sign exponent mantissa)).neg =
      UnpackedFloat.unpack .binary64 (packComponents .binary64 (-sign) exponent mantissa) := by
  unfold UnpackedFloat.unpack
  simp only [unpackSign_packComponents, Sign.ofBitVec_toBitVec, unpackExponent_packComponents,
    unpackMantissa_packComponents]
  split
  · split <;> rfl
  · split
    · split <;> rfl
    · rfl

theorem unpack_pack_neg (u : UnpackedFloat) :
    UnpackedFloat.unpack .binary64 (UnpackedFloat.pack .binary64 u.neg) =
      (UnpackedFloat.unpack .binary64 (UnpackedFloat.pack .binary64 u)).neg := by
  cases u with
  | notANumber =>
    change UnpackedFloat.unpack .binary64 (packedNaN .binary64) =
      (UnpackedFloat.unpack .binary64 (packedNaN .binary64)).neg
    rw [unpack_packedNaN]
    rfl
  | infinity sign => exact (unpack_neg sign _ _).symm
  | zero sign => exact (unpack_neg sign _ _).symm
  | finite sign m e positive =>
    unfold UnpackedFloat.neg UnpackedFloat.pack
    dsimp only
    split
    · exact (unpack_neg sign _ _).symm
    · split <;> exact (unpack_neg sign _ _).symm

/-- What has been read from bits is read again where it is written; the bits may have changed, where
they are those of no value. -/
theorem unpack_pack_unpack (b : BitVec Format.binary64.numBits) :
    UnpackedFloat.unpack .binary64 (UnpackedFloat.pack .binary64 (UnpackedFloat.unpack .binary64 b)) =
      UnpackedFloat.unpack .binary64 b := by
  rw [pack_unpack b]
  split
  · rename_i no_value
    rw [unpack_packedNaN]
    have fields := of_decide_eq_true no_value
    simp [UnpackedFloat.unpack, fields]
  · rfl

abbrev decoded (x : Float) : UnpackedFloat := x.toModel.unpack

theorem decoded_neg (x : Float) : decoded (-x) = (decoded x).neg := by
  have written := unpack_pack_neg (decoded x)
  have read := unpack_pack_unpack x.toModel.toBits.toBitVec
  exact written.trans (congrArg UnpackedFloat.neg read)

theorem lt_iff_compare {x y : Float} :
    x < y ↔ (decoded x).compare (decoded y) = some .lt := by
  change decide ((decoded x).lt (decoded y) = true) = true ↔ _
  simp [UnpackedFloat.lt]

theorem le_iff_compare {x y : Float} : x ≤ y ↔
    (decoded x).compare (decoded y) = some .lt ∨ (decoded x).compare (decoded y) = some .eq := by
  change decide ((decoded x).le (decoded y) = true) = true ↔ _
  unfold UnpackedFloat.le
  cases (decoded x).compare (decoded y) with
  | none => simp
  | some order => cases order <;> simp [Ordering.isLE]

theorem le_of_lt {x y : Float} (less : x < y) : x ≤ y :=
  le_iff_compare.mpr (.inl (lt_iff_compare.mp less))

theorem decoded_zero : decoded 0.0 = .zero .positive := by rfl

theorem decoded_negative_zero : decoded (-0.0) = .zero .negative := by rfl

theorem decoded_notANumber : decoded notANumber = .notANumber := by rfl

theorem decoded_of_nonneg {x : Float} (nonneg : 0.0 ≤ x) :
    decoded x = .infinity .positive ∨ (∃ sign, decoded x = .zero sign) ∨
      ∃ mantissa exponent positive, decoded x = .finite .positive mantissa exponent positive := by
  have order := le_iff_compare.mp nonneg
  rw [decoded_zero] at order
  cases read : decoded x with
  | notANumber => rw [read] at order; simp [UnpackedFloat.compare] at order
  | infinity sign =>
    cases sign with
    | positive => exact .inl rfl
    | negative => rw [read] at order; simp [UnpackedFloat.compare] at order
  | zero sign => exact .inr (.inl ⟨sign, rfl⟩)
  | finite sign mantissa exponent positive =>
    cases sign with
    | positive => exact .inr (.inr ⟨mantissa, exponent, positive, rfl⟩)
    | negative => rw [read] at order; simp [UnpackedFloat.compare] at order

theorem compare_self (u : UnpackedFloat) (value : u ≠ .notANumber) : u.compare u = some .eq := by
  cases u with
  | notANumber => exact absurd rfl value
  | infinity sign => cases sign <;> rfl
  | zero sign => rfl
  | finite sign mantissa exponent positive =>
    cases sign <;> simp [UnpackedFloat.compare]

theorem compare_notANumber (u : UnpackedFloat) : u.compare .notANumber = none := by
  cases u <;> rfl

theorem le_self_of_nonneg {x : Float} (nonneg : 0.0 ≤ x) : x ≤ x := by
  have value : decoded x ≠ .notANumber := by
    rcases decoded_of_nonneg nonneg with read | ⟨sign, read⟩ | ⟨_, _, _, read⟩ <;> simp [read]
  exact le_iff_compare.mpr (.inr (compare_self _ value))

theorem neg_le_neg_of_nonneg {x : Float} (nonneg : 0.0 ≤ x) : -x ≤ -x := by
  have value : decoded (-x) ≠ .notANumber := by
    rw [decoded_neg]
    rcases decoded_of_nonneg nonneg with read | ⟨sign, read⟩ | ⟨_, _, _, read⟩ <;>
      simp [read, UnpackedFloat.neg]
  exact le_iff_compare.mpr (.inr (compare_self _ value))

theorem neg_le_of_nonneg {x : Float} (nonneg : 0.0 ≤ x) : -x ≤ x := by
  apply le_iff_compare.mpr
  rw [decoded_neg]
  rcases decoded_of_nonneg nonneg with read | ⟨sign, read⟩ | ⟨_, _, _, read⟩
  · rw [read]; exact .inl rfl
  · rw [read]; exact .inr rfl
  · rw [read]; exact .inl rfl

theorem eq_self_of_le {x y : Float} (below : x ≤ y) : (y == y) = true := by
  have order := le_iff_compare.mp below
  have value : decoded y ≠ .notANumber := by
    intro no_value
    rw [no_value, compare_notANumber] at order
    simp at order
  exact (beq_iff_ne_notANumber_and_eq (decoded y) (decoded y)).mpr ⟨value, value, .inl rfl⟩

theorem nonneg_iff_not_lt {x : Float} (value : (x == x) = true) : 0 ≤ x ↔ ¬ x < 0 := by
  have read : decoded x ≠ .notANumber :=
    ((beq_iff_ne_notANumber_and_eq (decoded x) (decoded x)).mp value).1
  have zero : decoded 0 = .zero .positive := rfl
  rw [le_iff_compare, lt_iff_compare, zero]
  cases fields : decoded x with
  | notANumber => exact absurd fields read
  | infinity sign => cases sign <;> simp [UnpackedFloat.compare]
  | zero sign => simp [UnpackedFloat.compare]
  | finite sign mantissa exponent positive =>
    cases sign <;> simp [UnpackedFloat.compare]

/-- A zero of either sign, or no value. -/
def Vanishes (x : Float) : Prop := x = 0.0 ∨ x = -0.0 ∨ x = notANumber

theorem compare_zeros (u : UnpackedFloat) (sign other : Sign) :
    u.compare (.zero sign) = u.compare (.zero other) := by
  cases u with
  | infinity s => cases s <;> rfl
  | finite s mantissa exponent positive => cases s <;> rfl
  | _ => rfl

theorem not_le_vanishing {d x : Float} (above : ¬ d ≤ 0.0) (vanishes : Vanishes x) : ¬ d ≤ x := by
  intro below
  apply above
  rw [le_iff_compare] at below ⊢
  rcases vanishes with rfl | rfl | rfl
  · exact below
  · rwa [decoded_negative_zero, compare_zeros _ .negative .positive, ← decoded_zero] at below
  · rw [decoded_notANumber, compare_notANumber] at below
    simp at below

theorem sub_self_cases (x : Float) : x - x = 0.0 ∨ x - x = notANumber := by
  have exact_difference : UnpackedFloat.sub .binary64 (decoded x) (decoded x) = .zero .positive ∨
      UnpackedFloat.sub .binary64 (decoded x) (decoded x) = .notANumber := by
    cases decoded x with
    | notANumber => exact .inr rfl
    | infinity sign => cases sign <;> exact .inr rfl
    | zero sign => cases sign <;> exact .inl rfl
    | finite sign mantissa exponent positive =>
      left
      simp [UnpackedFloat.sub, UnpackedFloat.normalize]
  change Float.ofModel (.pack (UnpackedFloat.sub .binary64 (decoded x) (decoded x))) = 0.0 ∨
    Float.ofModel (.pack (UnpackedFloat.sub .binary64 (decoded x) (decoded x))) = notANumber
  rcases exact_difference with nothing | no_value
  · rw [nothing]; exact .inl rfl
  · rw [no_value]; exact .inr rfl

theorem mul_zero_vanishes (x : Float) : Vanishes (x * 0.0) := by
  change Vanishes (Float.ofModel (.pack (UnpackedFloat.mul .binary64 (decoded x) (.zero .positive))))
  cases decoded x with
  | notANumber => exact .inr (.inr rfl)
  | infinity sign => exact .inr (.inr rfl)
  | zero sign =>
    cases sign with
    | positive => exact .inl rfl
    | negative => exact .inr (.inl rfl)
  | finite sign mantissa exponent positive =>
    cases sign with
    | positive => exact .inl rfl
    | negative => exact .inr (.inl rfl)

theorem hypotenuse_self_vanishes (x y : Float) : Vanishes (hypotenuse (x - x) (y - y)) := by
  rcases sub_self_cases x with dx | dx <;> rcases sub_self_cases y with dy | dy <;> rw [dx, dy]
  · exact .inl (by decide +kernel)
  · exact .inr (.inr (by decide +kernel))
  · exact .inr (.inr (by decide +kernel))
  · exact .inr (.inr (by decide +kernel))

end Quadruped.Number
