import Quadruped.Proofs.Number.Value

/-!
Doubles beside a zero. A zero of either sign takes every finite factor with it and leaves every finite
term as it is; only an operation on something that is not finite makes what is no number.
-/
namespace Quadruped.Number

open Float.Model Float.Model.UnpackedFloat

variable {x y z : Float}

/-- A zero of either sign. -/
def IsZero (x : Float) : Prop := ∃ sign, decoded x = .zero sign

theorem isZero_zero : IsZero 0 := ⟨.positive, decoded_zero⟩

theorem isZero_of_decoded {u : UnpackedFloat} (read : decoded x = UnpackedFloat.unpack .binary64
    (UnpackedFloat.pack .binary64 u)) (zero : ∃ sign, u = .zero sign) : IsZero x := by
  obtain ⟨sign, rfl⟩ := zero
  refine ⟨sign, read.trans ?_⟩
  change UnpackedFloat.unpack _ (packedZero _ sign) = _
  rw [unpack_packedZero]

theorem decoded_add (x y : Float) : decoded (x + y) = UnpackedFloat.unpack .binary64
    (UnpackedFloat.pack .binary64 (UnpackedFloat.add .binary64 (decoded x) (decoded y))) := rfl

theorem decoded_sub (x y : Float) : decoded (x - y) = UnpackedFloat.unpack .binary64
    (UnpackedFloat.pack .binary64 (UnpackedFloat.sub .binary64 (decoded x) (decoded y))) := rfl

theorem decoded_mul (x y : Float) : decoded (x * y) = UnpackedFloat.unpack .binary64
    (UnpackedFloat.pack .binary64 (UnpackedFloat.mul .binary64 (decoded x) (decoded y))) := rfl

theorem IsZero.sub (first : IsZero x) (second : IsZero y) : IsZero (x - y) := by
  obtain ⟨sign, left⟩ := first
  obtain ⟨other, right⟩ := second
  apply isZero_of_decoded (decoded_sub x y)
  rw [left, right]
  cases sign <;> cases other <;> exact ⟨_, rfl⟩

theorem IsZero.add (first : IsZero x) (second : IsZero y) : IsZero (x + y) := by
  obtain ⟨sign, left⟩ := first
  obtain ⟨other, right⟩ := second
  apply isZero_of_decoded (decoded_add x y)
  rw [left, right]
  cases sign <;> cases other <;> exact ⟨_, rfl⟩

theorem IsZero.mul (zero : IsZero x) (finite : isFinite y = true) : IsZero (x * y) := by
  obtain ⟨sign, left⟩ := zero
  apply isZero_of_decoded (decoded_mul x y)
  rw [left]
  rcases (within_of_isFinite finite).read with ⟨other, right⟩ | ⟨other, m, e, positive, right, _⟩ <;>
    rw [right] <;> exact ⟨_, rfl⟩

theorem beq_iff : (x == y) = true ↔ (decoded x).beq (decoded y) = true := Iff.rfl

theorem decoded_of_beq (same : (x == y) = true) :
    decoded x = decoded y ∨ IsZero x ∧ IsZero y := by
  obtain ⟨-, -, alike⟩ := (beq_iff_ne_notANumber_and_eq _ _).mp (beq_iff.mp same)
  rcases alike with read | ⟨left, right⟩ | ⟨left, right⟩
  · exact .inl read
  · exact .inr ⟨⟨_, left⟩, _, right⟩
  · exact .inr ⟨⟨_, left⟩, _, right⟩

theorem isZero_of_beq (same : (x == 0) = true) : IsZero x := by
  rcases decoded_of_beq same with read | ⟨zero, _⟩
  · exact ⟨.positive, read⟩
  · exact zero

theorem compare_of_beq (same : (x == y) = true) (u : UnpackedFloat) :
    u.compare (decoded x) = u.compare (decoded y) ∧
      (decoded x).compare u = (decoded y).compare u := by
  rcases decoded_of_beq same with read | ⟨⟨sign, left⟩, other, right⟩
  · rw [read]
    exact ⟨rfl, rfl⟩
  · rw [left, right]
    refine ⟨compare_zeros u sign other, ?_⟩
    cases u with
    | finite s mantissa exponent positive => cases s <;> rfl
    | infinity s => cases s <;> rfl
    | notANumber | zero => rfl

theorem beq_of_zeros (first : IsZero x) (second : IsZero y) : (x == y) = true := by
  obtain ⟨sign, left⟩ := first
  obtain ⟨other, right⟩ := second
  refine beq_iff.mpr ((beq_iff_ne_notANumber_and_eq _ _).mpr ?_)
  rw [left, right]
  cases sign <;> cases other <;> simp

theorem beq_of_decoded (value : decoded y ≠ .notANumber) (read : decoded x = decoded y) :
    (x == y) = true :=
  beq_iff.mpr ((beq_iff_ne_notANumber_and_eq _ _).mpr ⟨read ▸ value, value, .inl read⟩)

theorem isFinite_value (finite : isFinite x = true) : decoded x ≠ .notANumber := by
  rcases (within_of_isFinite finite).read with ⟨sign, read⟩ | ⟨sign, m, e, positive, read, _⟩ <;>
    rw [read] <;> simp

theorem IsZero.finite (zero : IsZero x) : isFinite x = true := by
  obtain ⟨sign, read⟩ := zero
  exact Within.isFinite (show Fits 0 (decoded x) by rw [read]; trivial)

theorem beq_self (finite : isFinite x = true) : (x == x) = true :=
  beq_of_decoded (isFinite_value finite) rfl

theorem isFinite_of_beq (same : (x == y) = true) (finite : isFinite y = true) :
    isFinite x = true := by
  rcases decoded_of_beq same with read | ⟨zero, _⟩
  · exact Within.isFinite (show Fits 971 (decoded x) from read ▸ within_of_isFinite finite)
  · exact zero.finite

theorem beq_trans (first : (x == y) = true) (second : (y == z) = true) : (x == z) = true := by
  have value := ((beq_iff_ne_notANumber_and_eq _ _).mp (beq_iff.mp second)).2.1
  rcases decoded_of_beq first with left | ⟨left, middle⟩ <;>
    rcases decoded_of_beq second with right | ⟨center, right⟩
  · exact beq_of_decoded value (left.trans right)
  · obtain ⟨sign, read⟩ := center
    exact beq_of_zeros ⟨sign, left.trans read⟩ right
  · obtain ⟨sign, read⟩ := middle
    exact beq_of_zeros left ⟨sign, right.symm.trans read⟩
  · exact beq_of_zeros left right

theorem beq_of_written (finite : isFinite x = true) (written : decoded y =
    UnpackedFloat.unpack .binary64 (UnpackedFloat.pack .binary64 (decoded x))) : (y == x) = true :=
  beq_of_decoded (isFinite_value finite) (written.trans (unpack_pack_unpack _))

theorem IsZero.add_beq (finite : isFinite x = true) (zero : IsZero y) : (x + y == x) = true := by
  rcases (within_of_isFinite finite).read with none | ⟨sign, m, e, positive, read, _⟩
  · exact beq_of_zeros (IsZero.add none zero) none
  · obtain ⟨other, right⟩ := zero
    apply beq_of_written finite
    rw [decoded_add, right, read]
    rfl

theorem IsZero.beq_add (zero : IsZero x) (finite : isFinite y = true) : (x + y == y) = true := by
  rcases (within_of_isFinite finite).read with none | ⟨sign, m, e, positive, read, _⟩
  · exact beq_of_zeros (zero.add none) none
  · obtain ⟨other, left⟩ := zero
    apply beq_of_written finite
    rw [decoded_add, left, read]
    rfl

theorem unpack_components_value (sign : Sign) {exponent : BitVec 11} {mantissa : BitVec 52}
    (value : exponent ≠ -1#11 ∨ mantissa = 0#52) :
    UnpackedFloat.unpack .binary64 (packComponents .binary64 sign exponent mantissa) ≠
      .notANumber := by
  unfold UnpackedFloat.unpack
  simp only [unpackExponent_packComponents, unpackMantissa_packComponents]
  rcases value with not_full | nothing
  · rw [if_neg not_full]
    split
    · split <;> simp
    · simp
  · rw [if_pos nothing]
    split
    · simp
    · split <;> simp

theorem unpack_pack_value {u : UnpackedFloat} (value : u ≠ .notANumber) :
    UnpackedFloat.unpack .binary64 (UnpackedFloat.pack .binary64 u) ≠ .notANumber := by
  have lost (sign : Sign) : UnpackedFloat.unpack .binary64 (packedInfinity .binary64 sign) ≠
      .notANumber := unpack_components_value sign (.inr rfl)
  cases u with
  | notANumber => exact absurd rfl value
  | infinity sign => exact lost sign
  | zero sign => exact unpack_components_value sign (.inl (by decide))
  | finite sign m e positive =>
    unfold UnpackedFloat.pack
    dsimp only
    generalize biased : (e + (Format.binary64.exponentBias : Int) +
      (Format.binary64.mantissaBitsWithoutImplicit : Int)).toNat = k
    split
    · exact lost sign
    · rename_i room
      change ¬2048 ≤ k + 1 at room
      split
      · refine unpack_components_value sign (.inl fun full => ?_)
        have field : (BitVec.ofNat 11 k).toNat = k := Nat.mod_eq_of_lt (by omega)
        have all : (BitVec.ofNat 11 k).toNat = 2047 := congrArg BitVec.toNat full
        omega
      · exact unpack_components_value sign (.inl (by decide))

theorem roundWithAccuracy_value (sign : Sign) (m : Nat) (e : Int) (accuracy : Accuracy) :
    roundWithAccuracy .binary64 sign m e accuracy ≠ .notANumber := by
  unfold roundWithAccuracy
  dsimp only
  split <;> simp

theorem normalize_value (m e : Int) (sign : Sign) :
    UnpackedFloat.normalize .binary64 m e sign ≠ .notANumber := by
  unfold UnpackedFloat.normalize
  split
  · exact roundWithAccuracy_value _ _ _ _
  · simp
  · exact roundWithAccuracy_value _ _ _ _

theorem mul_value (first : isFinite x = true) (second : isFinite y = true) :
    decoded (x * y) ≠ .notANumber := by
  rw [decoded_mul]
  apply unpack_pack_value
  rcases (within_of_isFinite first).read with ⟨sign, left⟩ | ⟨sign, m, e, positive, left, _⟩ <;>
    rcases (within_of_isFinite second).read with ⟨other, right⟩ | ⟨other, n, k, nonzero, right, _⟩ <;>
    rw [left, right]
  · simp [UnpackedFloat.mul]
  · simp [UnpackedFloat.mul]
  · simp [UnpackedFloat.mul]
  · exact roundWithAccuracy_value _ _ _ _

theorem add_value (finite : isFinite x = true) (value : decoded y ≠ .notANumber) :
    decoded (x + y) ≠ .notANumber := by
  rw [decoded_add]
  apply unpack_pack_value
  rcases (within_of_isFinite finite).read with ⟨sign, left⟩ | ⟨sign, m, e, positive, left, _⟩ <;>
    rw [left] <;> cases right : decoded y with
    | notANumber => exact absurd right value
    | infinity other => simp [UnpackedFloat.add]
    | zero other => cases sign <;> cases other <;> simp [UnpackedFloat.add]
    | finite other n k nonzero => first | exact normalize_value _ _ _ | simp [UnpackedFloat.add]

theorem infinite_of_value (value : decoded x ≠ .notANumber) (lost : isFinite x = false) :
    ∃ negative, x = infinite negative := by
  refine infinite_of_lost ?_ lost
  by_contra none
  apply value
  have above : 2047 * 2 ^ 52 < magnitude x := of_decide_eq_true (Bool.eq_true_of_not_eq_false none)
  let b : BitVec Format.binary64.numBits := x.toModel.toBits.toBitVec
  have field := field_eq b
  have fraction := fraction_eq b
  change _ = magnitude x / 2 ^ 52 at field
  have short : magnitude x < 2 ^ 63 := Nat.mod_lt _ (Nat.two_pow_pos 63)
  have full : unpackExponent b = -1#11 :=
    BitVec.eq_of_toNat_eq (by rw [field]; change _ = 2047; omega)
  have some_bits : unpackMantissa b ≠ 0#52 := by
    intro nothing
    rw [nothing] at fraction
    change 0 = _ at fraction
    have low : magnitude x % 2 ^ 52 = b.toNat % 2 ^ 52 := by
      change b.toNat % 2 ^ 63 % 2 ^ 52 = _
      omega
    omega
  change UnpackedFloat.unpack .binary64 b = _
  unfold UnpackedFloat.unpack
  dsimp only
  rw [if_pos full, if_neg some_bits]

theorem scaled_short (v : Nat) {a b k : Nat} (room : a + b < k) :
    min v (twoTo a) * twoTo b < 2 ^ k := by
  calc min v (twoTo a) * twoTo b ≤ twoTo a * twoTo b :=
        Nat.mul_le_mul_right _ (Nat.min_le_right _ _)
    _ = 2 ^ (a + b) := (Nat.pow_add 2 a b).symm
    _ < 2 ^ k := Nat.pow_lt_pow_right (by decide) room

theorem ofFixed_isFinite (v : Int) : isFinite (ofFixed v) = true :=
  (ofSteps_within _ (k := 1022) (by decide) (scaled_short _ (by decide))).isFinite

theorem cosine_isFinite (finite : isFinite x = true) : isFinite (cosine x) = true := by
  unfold cosine
  rw [finite]
  exact ofFixed_isFinite _

theorem sine_isFinite (finite : isFinite x = true) : isFinite (sine x) = true := by
  unfold sine
  rw [finite]
  rw [if_neg (by decide)]
  split
  · exact finite
  · exact ofFixed_isFinite _

end Quadruped.Number
