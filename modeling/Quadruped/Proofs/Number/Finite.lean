import Quadruped.Proofs.Number.Magnitude
import Quadruped.Proofs.Number.Rounding

/-!
Doubles of a bounded size. A sum of two small doubles is small, and beside a small double even the
greatest one does not overflow. A product is as large as its two factors allow.
-/
namespace Quadruped.Number

open Float.Model Float.Model.UnpackedFloat

/-- A double that is finite, with an exponent of at most `top`. -/
def Within (top : Int) (x : Float) : Prop := Fits top (decoded x)

theorem Within.mono {low high : Int} {x : Float} (order : low ≤ high) (within : Within low x) :
    Within high x :=
  Fits.mono order within

theorem field_eq (b : BitVec Format.binary64.numBits) :
    (unpackExponent b).toNat = b.toNat % 2 ^ 63 / 2 ^ 52 := by
  have width : b.toNat < 2 ^ 64 := b.isLt
  simp [unpackExponent, BitVec.extractLsb, Nat.shiftRight_eq_div_pow]
  omega

def exponentOf (field : Nat) : Int := max 1 field - 1075

/-- A zero, or a value with a mantissa of 53 bits at the given exponent. -/
def Written (exponent : Int) : UnpackedFloat → Prop
  | .zero _ => True
  | .finite _ m e _ => m < 2 ^ 53 ∧ e = exponent
  | _ => False

theorem unpack_subnormal {b : BitVec Format.binary64.numBits} (empty : unpackExponent b = 0#11) :
    ((unpackMantissa b).toNat = 0 ∧ ∃ sign, UnpackedFloat.unpack .binary64 b = .zero sign) ∨
      ∃ positive, UnpackedFloat.unpack .binary64 b =
        .finite (Sign.ofBitVec (unpackSign b)) (unpackMantissa b).toNat (-1074) positive := by
  have bias : Format.binary64.exponentBias = 1023 := rfl
  unfold UnpackedFloat.unpack
  dsimp only
  rw [if_neg (by rw [empty]; decide), if_pos empty]
  by_cases nothing : unpackMantissa b = 0#52
  · rw [dif_pos nothing, nothing]
    exact .inl ⟨rfl, _, rfl⟩
  · rw [dif_neg nothing]
    have positive : 0 < (unpackMantissa b).toNat :=
      Nat.pos_of_ne_zero fun zero => nothing (BitVec.eq_of_toNat_eq zero)
    refine .inr ⟨positive, ?_⟩
    rw [UnpackedFloat.finite.injEq, bias, empty]
    exact ⟨rfl, rfl, rfl⟩

theorem unpack_normal {b : BitVec Format.binary64.numBits} (value : unpackExponent b ≠ -1#11)
    (filled : unpackExponent b ≠ 0#11) :
    ∃ positive, UnpackedFloat.unpack .binary64 b =
      .finite (Sign.ofBitVec (unpackSign b)) (2 ^ 52 + (unpackMantissa b).toNat)
        ((unpackExponent b).toNat - 1075) positive := by
  have bias : Format.binary64.exponentBias = 1023 := rfl
  have implicit : (1#1 ++ unpackMantissa b).toNat = 2 ^ 52 + (unpackMantissa b).toNat := by
    rw [BitVec.toNat_append, Nat.or_comm, Nat.shiftLeft_eq]
    change _ ||| 1 * 2 ^ 52 = _
    rw [Nat.one_mul, Nat.or_two_pow_eq_add_of_lt (unpackMantissa b).isLt, Nat.add_comm]
  unfold UnpackedFloat.unpack
  dsimp only
  rw [if_neg value, if_neg filled]
  refine ⟨by omega, ?_⟩
  rw [UnpackedFloat.finite.injEq, bias]
  exact ⟨rfl, implicit, rfl⟩

theorem unpack_value (b : BitVec Format.binary64.numBits) :
    if (unpackExponent b).toNat = 2047 then
      ∀ top, ¬ Fits top (UnpackedFloat.unpack .binary64 b)
    else
      Written (exponentOf (unpackExponent b).toNat) (UnpackedFloat.unpack .binary64 b) := by
  have fraction : (unpackMantissa b).toNat < 2 ^ 52 := (unpackMantissa b).isLt
  by_cases full : unpackExponent b = -1#11
  · have field : (unpackExponent b).toNat = 2047 := by rw [full]; rfl
    rw [if_pos field]
    unfold UnpackedFloat.unpack
    dsimp only
    rw [if_pos full]
    intro top
    split <;> exact id
  · have field : (unpackExponent b).toNat ≠ 2047 := fun field => full (BitVec.eq_of_toNat_eq field)
    rw [if_neg field]
    by_cases empty : unpackExponent b = 0#11
    · rcases unpack_subnormal empty with ⟨_, sign, read⟩ | ⟨positive, read⟩ <;> rw [read]
      · trivial
      · rw [empty]
        exact ⟨by omega, rfl⟩
    · have filled : (unpackExponent b).toNat ≠ 0 := fun zero => empty (BitVec.eq_of_toNat_eq zero)
      obtain ⟨positive, read⟩ := unpack_normal full empty
      rw [read]
      refine ⟨by omega, ?_⟩
      unfold exponentOf
      omega

theorem Written.fits {exponent top : Int} {u : UnpackedFloat} (written : Written exponent u)
    (order : exponent ≤ top) : Fits top u := by
  cases u with
  | zero sign => trivial
  | finite sign m e positive => exact Int.le_trans (Int.le_of_eq written.2) order
  | notANumber | infinity => exact written

theorem unpack_fits {b : BitVec Format.binary64.numBits} {top : Int}
    (field : (unpackExponent b).toNat ≤ 2046) (order : exponentOf (unpackExponent b).toNat ≤ top) :
    Fits top (UnpackedFloat.unpack .binary64 b) := by
  have value := unpack_value b
  rw [if_neg (by omega)] at value
  exact value.fits order

theorem Within.read {top : Int} {x : Float} (within : Within top x) :
    (∃ sign, decoded x = .zero sign) ∨ ∃ sign m e positive,
      decoded x = .finite sign m e positive ∧ m < 2 ^ 53 ∧ e ≤ top := by
  have value := unpack_value x.toModel.toBits.toBitVec
  change if _ then ∀ top, ¬ Fits top (decoded x) else Written _ (decoded x) at value
  unfold Within at within
  split at value
  · exact absurd within (value top)
  · cases read : decoded x with
    | notANumber | infinity =>
      rw [read] at within
      exact within.elim
    | zero sign => exact .inl ⟨sign, rfl⟩
    | finite sign m e positive =>
      rw [read] at within value
      exact .inr ⟨sign, m, e, positive, rfl, value.1, within⟩

theorem decoded_ofBits (bits : UInt64) :
    decoded (Float.ofBits bits) = UnpackedFloat.unpack .binary64 bits.toBitVec :=
  unpack_pack_unpack bits.toBitVec

theorem fits_of_magnitude {b : BitVec Format.binary64.numBits} {field : Nat} (positive : 1 ≤ field)
    (room : field ≤ 2046) (below : b.toNat % 2 ^ 63 < (field + 1) * 2 ^ 52) :
    Fits (field - 1075) (UnpackedFloat.unpack .binary64 b) := by
  have least : (unpackExponent b).toNat ≤ field := by
    rw [field_eq]
    omega
  refine unpack_fits (by omega) ?_
  unfold exponentOf
  omega

theorem within_of_isFinite {x : Float} (finite : isFinite x = true) : Within 971 x :=
  fits_of_magnitude (by decide) (by decide) (of_decide_eq_true finite)

theorem Within.isFinite {top : Int} {x : Float} (within : Within top x) : isFinite x = true := by
  have value := unpack_value x.toModel.toBits.toBitVec
  split at value
  · exact absurd within (value top)
  · rename_i field
    rw [field_eq] at field
    change ¬ x.toBits.toNat % 2 ^ 63 / 2 ^ 52 = 2047 at field
    apply decide_eq_true
    change x.toBits.toNat % 2 ^ 63 < 2047 * 2 ^ 52
    omega

theorem unpack_pack_fits {top : Int} {u : UnpackedFloat} (low : -1074 ≤ top) (high : top ≤ 971)
    (fits : Fits top u) :
    Fits top (UnpackedFloat.unpack .binary64 (UnpackedFloat.pack .binary64 u)) := by
  have components {sign : Sign} {exponent : BitVec 11} {mantissa : BitVec 52}
      (field : exponent.toNat ≤ 2046) (order : exponentOf exponent.toNat ≤ top) :
      Fits top (UnpackedFloat.unpack .binary64 (packComponents .binary64 sign exponent mantissa)) :=
    unpack_fits (by rwa [unpackExponent_packComponents]) (by rwa [unpackExponent_packComponents])
  cases u with
  | notANumber | infinity => exact absurd fits id
  | zero sign => exact components (by decide) low
  | finite sign m e positive =>
    change e ≤ top at fits
    have bias : Format.binary64.exponentBias = 1023 := rfl
    unfold UnpackedFloat.pack
    dsimp only
    rw [bias]
    generalize biased : (e + ((1023 : Nat) : Int) + ((52 : Nat) : Int)).toNat = k
    rw [if_neg (by omega)]
    split
    · have field : (BitVec.ofNat 11 k).toNat = k := Nat.mod_eq_of_lt (by omega)
      refine components ?_ ?_ <;> rw [field]
      · omega
      · unfold exponentOf
        omega
    · exact components (by decide) low

theorem normalize_fits {top : Int} {mantissa e : Int}
    (rounds : ∀ sign m, 0 < m → m = mantissa.natAbs → Fits top (round .binary64 sign m e)) :
    Fits top (UnpackedFloat.normalize .binary64 mantissa e .positive) := by
  unfold UnpackedFloat.normalize
  split
  · rename_i negative
    rw [Int.compare_eq_lt] at negative
    exact rounds _ _ (by omega) (by omega)
  · trivial
  · rename_i positive
    rw [Int.compare_eq_gt] at positive
    exact rounds _ _ (by omega) (by omega)

theorem infinity_highest (u : UnpackedFloat) :
    (UnpackedFloat.infinity .positive).compare u ≠ some .lt := by
  cases u with
  | infinity sign => cases sign <;> decide
  | notANumber | zero | finite => simp [UnpackedFloat.compare]

theorem infinity_lowest (u : UnpackedFloat) :
    u.compare (UnpackedFloat.infinity .negative) ≠ some .lt := by
  cases u with
  | infinity sign => cases sign <;> decide
  | notANumber | zero | finite => simp [UnpackedFloat.compare]

section
variable {x y : Float}

theorem Within.add {top : Int} (low : -1074 ≤ top) (high : top + 2 ≤ 971) (first : Within top x)
    (second : Within top y) : Within (top + 2) (x + y) := by
  apply unpack_pack_fits (by omega) high
  change Fits (top + 2) (UnpackedFloat.add .binary64 (decoded x) (decoded y))
  rcases first.read with ⟨sign₁, left⟩ | ⟨sign₁, m₁, e₁, positive₁, left, short₁, reach₁⟩ <;>
    rcases second.read with ⟨sign₂, right⟩ | ⟨sign₂, m₂, e₂, positive₂, right, short₂, reach₂⟩ <;>
    rw [left, right]
  · cases sign₁ <;> cases sign₂ <;> trivial
  · exact Int.le_trans reach₂ (by omega)
  · exact Int.le_trans reach₁ (by omega)
  · apply normalize_fits
    intro sign m positive sum
    refine small_sum_fits short₁ short₂ low reach₁ reach₂ sign positive ?_
    simp only [Nat.shiftLeft_eq] at sum
    unfold aligned
    cases sign₁ <;> cases sign₂ <;> simp only [Sign.apply] at sum <;> omega

/-- Beside a double of this size none overflows. -/
abbrev Small (x : Float) : Prop := Within (-40) x

theorem Small.sub (first : Small x) (second : Within 971 y) : Within 971 (x - y) := by
  apply unpack_pack_fits (by decide) (by decide)
  change Fits 971 (UnpackedFloat.sub .binary64 (decoded x) (decoded y))
  rcases first.read with ⟨sign₁, left⟩ | ⟨sign₁, m₁, e₁, positive₁, left, short₁, reach₁⟩ <;>
    rcases second.read with ⟨sign₂, right⟩ | ⟨sign₂, m₂, e₂, positive₂, right, short₂, reach₂⟩ <;>
    rw [left, right]
  · cases sign₁ <;> cases sign₂ <;> trivial
  · exact reach₂
  · exact Int.le_trans reach₁ (by decide)
  · apply normalize_fits
    intro sign m positive sum
    refine large_sum_fits short₁ short₂ reach₁ reach₂ sign positive ?_
    simp only [Nat.shiftLeft_eq] at sum
    unfold aligned
    cases sign₁ <;> cases sign₂ <;> simp only [Sign.apply] at sum <;> omega

theorem Within.mul {top : Int} (first : Within top x) {sign : Sign} {m : Nat} {e : Int}
    {positive : 0 < m} (second : decoded y = .finite sign m e positive) (full : 2 ^ 52 ≤ m)
    (short : m < 2 ^ 53) (low : -1073 ≤ top + e + 54) (high : top + e + 54 ≤ 971) :
    Within (top + e + 54) (x * y) := by
  apply unpack_pack_fits (by omega) high
  change Fits (top + e + 54) (UnpackedFloat.mul .binary64 (decoded x) (decoded y))
  rw [second]
  rcases first.read with ⟨sign₁, left⟩ | ⟨sign₁, c, k, nonzero, left, narrow, reach⟩ <;> rw [left]
  · trivial
  · change Fits _ (roundWithAccuracy .binary64 _ (c * m) (k + e) .exact)
    have wide : 2 ^ 52 ≤ c * m := Nat.le_trans full (Nat.le_mul_of_pos_left m nonzero)
    have some_product : c * m ≠ 0 := by omega
    have least : 52 ≤ (c * m).log2 := (Nat.le_log2 some_product).mpr wide
    have most : (c * m).log2 < 106 := by
      refine (Nat.log2_lt some_product).mpr ?_
      calc c * m < 2 ^ 53 * 2 ^ 53 := Nat.mul_lt_mul'' narrow short
        _ = 2 ^ 106 := rfl
    have aims := target_eq (c * m) (k + e)
    -- the product is long enough for the rounding to aim no lower than its exponent
    obtain ⟨n, gap⟩ : ∃ n : Nat, target (c * m) (k + e) = k + e + n :=
      ⟨(target (c * m) (k + e) - (k + e)).toNat, by omega⟩
    exact (roundWithAccuracy_fits _ gap).1.mono (by omega)

theorem Within.neg {top : Int} (within : Within top x) : Within top (-x) := by
  unfold Within at within ⊢
  rw [decoded_neg]
  cases read : decoded x with
  | zero sign => trivial
  | finite => rwa [read] at within
  | notANumber | infinity =>
    rw [read] at within
    exact within.elim

theorem isFinite_of_between {low high : Float} (above : low < x) (below : x < high) :
    isFinite x = true := by
  rw [lt_iff_compare] at above below
  cases read : decoded x with
  | zero sign => exact Within.isFinite (show Fits 0 (decoded x) by rw [read]; trivial)
  | finite sign m e positive =>
    exact Within.isFinite (show Fits e (decoded x) by rw [read]; exact Int.le_refl e)
  | notANumber =>
    rw [read, compare_notANumber] at above
    cases above
  | infinity sign =>
    rw [read] at above below
    cases sign with
    | positive => exact absurd below (infinity_highest (decoded high))
    | negative => exact absurd above (infinity_lowest (decoded low))

end

theorem roundDiv_nearest (n d : Nat) : roundDiv n d = n / d ∨ roundDiv n d = n / d + 1 := by
  unfold roundDiv
  dsimp only
  split <;> simp

theorem ofSteps_within (negative : Bool) {n k : Nat} (room : k + 2 ≤ 2046)
    (short : n < 2 ^ (k + 53)) : Within ((k + 2 : Nat) - 1075) (ofSteps negative n 0) := by
  have dropped : max 0 (n.log2 - 52) ≤ k := by
    by_cases zero : n = 0
    · simp [zero]
    · have log := (Nat.log2_lt zero).mpr short
      omega
  have rounded : roundDiv n (twoTo (max 0 (n.log2 - 52))) ≤ 2 ^ 53 := by
    have quotient : n / twoTo (max 0 (n.log2 - 52)) < 2 ^ 53 := by
      refine Nat.div_lt_of_lt_mul ?_
      change n < 2 ^ (max 0 (n.log2 - 52)) * 2 ^ 53
      rw [← Nat.pow_add]
      exact Nat.lt_of_lt_of_le Nat.lt_log2_self (Nat.pow_le_pow_right (by decide) (by omega))
    rcases roundDiv_nearest n (twoTo (max 0 (n.log2 - 52))) with down | up <;> omega
  have size : magnitudeOf n 0 ≤ (k + 2) * 2 ^ 52 := by
    unfold magnitudeOf
    dsimp only
    refine Nat.le_trans (Nat.min_le_left _ _) ?_
    change (max 0 (n.log2 - 52) - 0) * 2 ^ 52 + _ ≤ _
    omega
  unfold Within ofSteps signed
  rw [decoded_ofBits]
  apply fits_of_magnitude (by omega) room
  generalize magnitudeOf n 0 = m at size
  have large : twoTo 63 = 2 ^ 63 := rfl
  have bits : (if negative then twoTo 63 + m else m) < UInt64.size := by
    rw [large]
    change _ < 2 ^ 64
    split <;> omega
  rw [UInt64.toNat_toBitVec, UInt64.toNat_ofNat_of_lt' bits, large]
  split <;> omega

end Quadruped.Number
