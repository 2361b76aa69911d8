import Quadruped.Proofs.Number.Double

/-!
How far a rounded value may reach. The rounding of a sum is followed through its shifts: a value that
lies below the greatest double by more than half a step does not become infinite.
-/
namespace Quadruped.Number

open Float.Model Float.Model.UnpackedFloat

/-- A value that is finite, with an exponent of at most `top`. -/
def Fits (top : Int) : UnpackedFloat → Prop
  | .zero _ => True
  | .finite _ _ exponent _ => exponent ≤ top
  | _ => False

theorem Fits.mono {low high : Int} {u : UnpackedFloat} (order : low ≤ high) (fits : Fits low u) :
    Fits high u := by
  cases u with
  | zero sign => trivial
  | finite sign mantissa exponent positive => exact Int.le_trans fits order
  | notANumber | infinity => exact fits

/-- The mantissa and the first bit that is dropped, after so many shifts. -/
theorem shift_exact (m n : Nat) :
    let shifted := ExtendedMantissa.ofMantissaAndAccuracy m .exact >>> n
    2 * shifted.mantissa + shifted.roundBit.toNat = 2 * m / 2 ^ n := by
  induction n with
  | zero => simp [ExtendedMantissa.ofMantissaAndAccuracy, HShiftRight.hShiftRight, Nat.repeat]
  | succ n ih =>
    dsimp only at ih ⊢
    generalize before : ExtendedMantissa.ofMantissaAndAccuracy m .exact >>> n = em at ih
    have next : ExtendedMantissa.ofMantissaAndAccuracy m .exact >>> (n + 1) = em.shiftRightOne := by
      rw [← before]
      rfl
    have bit : em.roundBit.toNat < 2 := em.roundBit.toNat_lt
    -- one more shift halves the mantissa; the bit before it is forgotten
    have halved : em.mantissa = 2 * m / 2 ^ (n + 1) := by
      rw [Nat.pow_succ, ← Nat.div_div_eq_div_mul, ← ih]
      omega
    rw [next, ← halved]
    have dropped : (em.mantissa % 2 != 0).toNat = em.mantissa % 2 := by
      rcases Nat.mod_two_eq_zero_or_one em.mantissa with even | odd
      · simp [even]
      · simp [odd]
    change 2 * (em.mantissa / 2) + (em.mantissa % 2 != 0).toNat = em.mantissa
    rw [dropped]
    exact Nat.div_add_mod em.mantissa 2

theorem rounded_le (em : ExtendedMantissa) :
    em.roundedMantissa ≤ em.mantissa + em.roundBit.toNat := by
  rcases em with ⟨m, r, s⟩
  cases r <;> cases s <;>
    simp [ExtendedMantissa.roundedMantissa, ExtendedMantissa.accuracy, Accuracy.roundToNearestEven]
  omega

/-- The exponent that the rounding of a value aims at. -/
def target (m : Nat) (e : Int) : Int := Format.binary64.targetExponent (totalExponent m e)

theorem target_eq (m : Nat) (e : Int) : target m e = max (m.log2 + 1 + e - 53) (-1074) := by
  simp [target, Format.targetExponent, totalExponent, Format.mantissaBits, Format.minExponent]

theorem shiftToTarget_exact (m : Nat) (e : Int) :
    shiftToTargetExponent .binary64 m e .exact =
      (ExtendedMantissa.ofMantissaAndAccuracy m .exact >>> (target m e - e).toNat,
        e + (target m e - e).toNat) := rfl

theorem first_rounding {m n : Nat} {e : Int} (gap : target m e = e + n) :
    let first := ExtendedMantissa.ofMantissaAndAccuracy m .exact >>> n
    first.roundedMantissa ≤ 2 ^ 53 ∧
      (2 * m < (2 ^ 54 - 1) * 2 ^ n → first.roundedMantissa < 2 ^ 53) := by
  intro first
  have exact_bits := shift_exact m n
  have rounded := rounded_le first
  have bit : first.roundBit.toNat < 2 := first.roundBit.toNat_lt
  change 2 * first.mantissa + first.roundBit.toNat = _ at exact_bits
  have width : m < 2 ^ (53 + n) := by
    rw [target_eq] at gap
    have short : m.log2 + 1 ≤ 53 + n := by omega
    exact Nat.lt_of_lt_of_le Nat.lt_log2_self (Nat.pow_le_pow_right (by decide) short)
  have quotient : 2 * m / 2 ^ n < 2 ^ 54 := by
    rw [Nat.div_lt_iff_lt_mul (Nat.two_pow_pos n), ← Nat.pow_add]
    have double : 2 ^ (54 + n) = 2 * 2 ^ (53 + n) := by
      rw [← Nat.pow_succ']
      congr 1
      omega
    omega
  constructor
  · omega
  · intro below
    have tight : 2 * m / 2 ^ n < 2 ^ 54 - 1 := (Nat.div_lt_iff_lt_mul (Nat.two_pow_pos n)).mpr below
    omega

theorem roundWithAccuracy_fits (sign : Sign) {m n : Nat} {e : Int} (gap : target m e = e + n) :
    Fits (target m e + 1) (roundWithAccuracy .binary64 sign m e .exact) ∧
      (2 * m < (2 ^ 54 - 1) * 2 ^ n →
        Fits (target m e) (roundWithAccuracy .binary64 sign m e .exact)) := by
  obtain ⟨most, tight⟩ := first_rounding gap
  have shifts : (target m e - e).toNat = n := by omega
  have floor : -1074 ≤ target m e := by
    rw [target_eq]
    exact Int.le_max_right _ _
  unfold roundWithAccuracy
  rw [shiftToTarget_exact m e, shifts, ← gap]
  dsimp only
  generalize (ExtendedMantissa.ofMantissaAndAccuracy m .exact >>> n).roundedMantissa = rounded
    at most tight ⊢
  rw [shiftToTarget_exact rounded (target m e)]
  have log_le {bound : Nat} (below : rounded < 2 ^ bound) (pos : 0 < bound) :
      rounded.log2 + 1 ≤ bound := by
    by_cases zero : rounded = 0
    · simp [zero]
      omega
    · exact (Nat.log2_lt zero).mpr below
  -- the first rounding gives at most 2 ^ 53, so the second shift is of one place at most
  have again := target_eq rounded (target m e)
  have first : rounded.log2 + 1 ≤ 54 := log_le (by omega) (by decide)
  constructor
  · dsimp only
    split
    · trivial
    · change target m e + ↑(target rounded (target m e) - target m e).toNat ≤ _
      omega
  · intro below
    have second : rounded.log2 + 1 ≤ 53 := log_le (tight below) (by decide)
    dsimp only
    split
    · trivial
    · change target m e + ↑(target rounded (target m e) - target m e).toNat ≤ _
      omega

theorem target_shiftLeft {m : Nat} (pos : 0 < m) (e : Int) (k : Nat) :
    target (m <<< k) (e - k) = target m e := by
  have log : (m <<< k).log2 = m.log2 + k := by
    rw [Nat.shiftLeft_eq]
    refine (Nat.log2_eq_iff (Nat.mul_pos pos (Nat.two_pow_pos k)).ne').mpr ⟨?_, ?_⟩
    · rw [Nat.pow_add]
      exact Nat.mul_le_mul_right _ (Nat.log2_self_le pos.ne')
    · rw [Nat.add_right_comm, Nat.pow_add]
      exact Nat.mul_lt_mul_of_pos_right Nat.lt_log2_self (Nat.two_pow_pos k)
  rw [target_eq, target_eq, log]
  congr 1
  push_cast
  omega

/-- A rounded value reaches no further than one step above its target, and not above it where the
value is below the greatest one of that exponent by more than half a step. -/
theorem round_fits (sign : Sign) {m : Nat} (pos : 0 < m) (e : Int) :
    Fits (target m e + 1) (round .binary64 sign m e) ∧
      ∀ n : Nat, target m e = e + n → 2 * m < (2 ^ 54 - 1) * 2 ^ n →
        Fits (target m e) (round .binary64 sign m e) := by
  have unfolded : round .binary64 sign m e =
      roundWithAccuracy .binary64 sign (m <<< (e - target m e).toNat) (e - (e - target m e).toNat)
        .exact := rfl
  rw [unfolded]
  have same := target_shiftLeft pos e (e - target m e).toNat
  obtain ⟨gap, reach⟩ : ∃ n : Nat, target m e = e - (e - target m e).toNat + n :=
    ⟨(target m e - e).toNat, by omega⟩
  have fits := roundWithAccuracy_fits sign (same.trans reach)
  rw [same] at fits
  refine ⟨fits.1, ?_⟩
  intro n up below
  have none_left : (e - target m e).toNat = 0 := by omega
  have gap_eq : gap = n := by omega
  rw [none_left] at fits ⊢
  rw [gap_eq] at fits
  exact fits.2 (by simpa using below)

def aligned (m₁ : Nat) (e₁ : Int) (m₂ : Nat) (e₂ : Int) : Nat :=
  m₁ * 2 ^ (e₁ - min e₁ e₂).toNat + m₂ * 2 ^ (e₂ - min e₁ e₂).toNat

theorem scaled_le {m : Nat} (mantissa : m < 2 ^ 53) {e low : Int} {k : Nat}
    (reach : e ≤ low + k) : m * 2 ^ (e - low).toNat ≤ (2 ^ 53 - 1) * 2 ^ k :=
  Nat.mul_le_mul (by omega) (Nat.pow_le_pow_right (by decide) (by omega))

section
variable {m₁ m₂ : Nat} {e₁ e₂ : Int} (mantissa₁ : m₁ < 2 ^ 53) (mantissa₂ : m₂ < 2 ^ 53)
include mantissa₁ mantissa₂

theorem small_sum_fits {top : Int} (high : -1074 ≤ top) (small₁ : e₁ ≤ top) (small₂ : e₂ ≤ top)
    (sign : Sign) {m : Nat} (pos : 0 < m) (sum : m ≤ aligned m₁ e₁ m₂ e₂) :
    Fits (top + 2) (round .binary64 sign m (min e₁ e₂)) := by
  obtain ⟨k, reach⟩ : ∃ k : Nat, top = min e₁ e₂ + k := ⟨(top - min e₁ e₂).toNat, by omega⟩
  have reach₁ : e₁ ≤ min e₁ e₂ + k := by omega
  have reach₂ : e₂ ≤ min e₁ e₂ + k := by omega
  have first := scaled_le mantissa₁ reach₁
  have second := scaled_le mantissa₂ reach₂
  have width : m < 2 ^ (54 + k) := by
    rw [Nat.pow_add]
    have some_room : 0 < 2 ^ k := Nat.two_pow_pos k
    unfold aligned at sum
    omega
  have log : m.log2 < 54 + k := (Nat.log2_lt pos.ne').mpr width
  refine (round_fits sign pos (min e₁ e₂)).1.mono ?_
  rw [target_eq]
  omega

/-- Beside a small value the greatest double has room. -/
theorem large_sum_fits (small₁ : e₁ ≤ -40) (large₂ : e₂ ≤ 971) (sign : Sign) {m : Nat} (pos : 0 < m)
    (sum : m ≤ aligned m₁ e₁ m₂ e₂) : Fits 971 (round .binary64 sign m (min e₁ e₂)) := by
  obtain ⟨k, reach⟩ : ∃ k : Nat, -40 = min e₁ e₂ + k := ⟨(-40 - min e₁ e₂).toNat, by omega⟩
  have reach₁ : e₁ ≤ min e₁ e₂ + k := by omega
  have reach₂ : e₂ ≤ min e₁ e₂ + (1011 + k : Nat) := by omega
  have first := scaled_le mantissa₁ reach₁
  have second := scaled_le mantissa₂ reach₂
  have room : 2 ^ 55 * 2 ^ k ≤ 2 ^ (1011 + k) := by
    rw [← Nat.pow_add]
    exact Nat.pow_le_pow_right (by decide) (by omega)
  have below : 2 * m < (2 ^ 54 - 1) * 2 ^ (1011 + k) := by
    have some_room : 0 < 2 ^ k := Nat.two_pow_pos k
    unfold aligned at sum
    generalize 2 ^ (1011 + k) = most at second room ⊢
    omega
  obtain ⟨loose, tight⟩ := round_fits sign pos (min e₁ e₂)
  have aims := target_eq m (min e₁ e₂)
  -- below the greatest exponent the step of a rounding is free; there it is not taken
  by_cases far : target m (min e₁ e₂) ≤ 970
  · exact loose.mono (by omega)
  · have log : m.log2 < 1064 + k := by
      refine (Nat.log2_lt pos.ne').mpr ?_
      have whole : 2 ^ (1064 + k) = 2 ^ 53 * 2 ^ (1011 + k) := by
        rw [← Nat.pow_add]
        congr 1
        omega
      rw [whole]
      generalize 2 ^ (1011 + k) = most at below
      omega
    have at_top : target m (min e₁ e₂) = 971 := by omega
    rw [← at_top]
    exact tight (1011 + k) (by omega) below

end

end Quadruped.Number
