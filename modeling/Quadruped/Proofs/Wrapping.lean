import Quadruped.Proofs.Number.Exact
import Quadruped.Proofs.Number.Value

/-!
The wrapping of angles on doubles is exact: the remainder rounds nothing, and the one double that it
leaves on the wrong side of the seam is carried over to the other side without an error.
-/
namespace Quadruped.Angle

open Number

def halfTurn : ℚ := value (Scalar.pi : Float)

example : halfTurn = 884279719003555 / 2 ^ 48 := by decide +kernel

/-- A rotation that ends where the angle does, and goes half a turn to the left or less, or less than
half a turn to the right. -/
structure Represents (angle r : ℚ) : Prop where
  above : -halfTurn < r
  below : r ≤ halfTurn
  turns : ∃ n : ℤ, r = angle - n * (2 * halfTurn)

abbrev halfSteps : ℕ := steps (Scalar.pi : Float)

theorem turn_steps : steps (Scalar.twoPi : Float) = 2 * halfSteps := by decide +kernel

theorem halfSteps_pos : 0 < halfSteps := by decide +kernel

theorem halfTurn_eq : halfTurn = halfSteps / 2 ^ 1074 := by
  have finite : isFinite (Scalar.pi : Float) = true := by decide +kernel
  have positive : signedSteps (Scalar.pi : Float) = halfSteps := by decide +kernel
  rw [halfTurn, value_eq finite, positive, Int.cast_natCast]

theorem halfTurn_pos : 0 < halfTurn := by
  have positive := halfSteps_pos
  rw [halfTurn_eq]
  positivity

theorem normalize_of_remainder {a w : Float} (left : remainder a Scalar.twoPi = some w)
    (finite : isFinite w = true) (short : steps w ≤ halfSteps) :
    (-halfSteps < signedSteps w → normalize a = some w) ∧
      (signedSteps w = -halfSteps → normalize a = some Scalar.pi) := by
  have wrapped : normalize a =
      some (if Scalar.le w (-Scalar.pi) then w + Scalar.twoPi else w) := by
    change (remainder a Scalar.twoPi).map _ = _
    rw [left]
    rfl
  have known : isFinite (-Scalar.pi : Float) = true := by decide +kernel
  have seam : signedSteps (-Scalar.pi : Float) = -halfSteps := by decide +kernel
  rw [wrapped]
  constructor
  · intro above
    have order : ¬ w ≤ -Scalar.pi := by
      rw [le_iff_steps finite known, seam]
      omega
    rw [if_neg (by exact fun le => order (of_decide_eq_true le))]
  · intro low
    have negative : isNegative w = true := by
      have some_steps := halfSteps_pos
      by_contra positive
      rw [signedSteps, if_neg positive] at low
      omega
    have number : steps w = halfSteps := by
      rw [← natAbs_signedSteps, low, Int.natAbs_neg, Int.natAbs_natCast]
    have exact_seam : w = -Scalar.pi := by
      rw [← ofSteps_steps finite, negative, number]
      decide +kernel
    rw [exact_seam]
    decide +kernel

theorem normalize_self {w : Float} (finite : isFinite w = true) (above : -halfSteps < signedSteps w)
    (below : signedSteps w ≤ halfSteps) : normalize w = some w := by
  have short : steps w ≤ halfSteps := by
    have size := natAbs_signedSteps w
    omega
  obtain ⟨r, left, _, _, _, same⟩ := remainder_steps (y := (Scalar.twoPi : Float)) finite
    (by decide +kernel) (by decide +kernel)
  rw [turn_steps] at same
  obtain rfl := same (by omega)
  exact (normalize_of_remainder left finite short).1 above

theorem normalize_steps {a : Float} (finite : isFinite a = true) :
    ∃ w, normalize a = some w ∧ isFinite w = true ∧
      -halfSteps < signedSteps w ∧ signedSteps w ≤ halfSteps ∧
      ∃ n : ℤ, signedSteps w = signedSteps a - n * (2 * halfSteps) := by
  obtain ⟨w, left, known, half, ⟨n, turns⟩, _⟩ := remainder_steps (y := (Scalar.twoPi : Float)) finite
    (by decide +kernel) (by decide +kernel)
  rw [turn_steps] at half turns
  have size := natAbs_signedSteps w
  have some_steps := halfSteps_pos
  obtain ⟨inside, seam⟩ := normalize_of_remainder left known (by omega)
  by_cases above : -(halfSteps : ℤ) < signedSteps w
  · exact ⟨w, inside above, known, above, by omega, n, by push_cast at turns; exact turns⟩
  · have low : signedSteps w = -halfSteps := by omega
    have positive : signedSteps (Scalar.pi : Float) = halfSteps := by decide +kernel
    refine ⟨Scalar.pi, seam low, by decide +kernel, by omega, by omega, n - 1, ?_⟩
    rw [positive, sub_mul]
    push_cast at turns
    omega

structure Wrapped (w : Float) : Prop where
  finite : isFinite w = true
  above : -Scalar.pi < w
  below : w ≤ Scalar.pi

theorem wrapped_iff_steps {w : Float} (finite : isFinite w = true) :
    Wrapped w ↔ -halfSteps < signedSteps w ∧ signedSteps w ≤ halfSteps := by
  have left : isFinite (Scalar.pi : Float) = true := by decide +kernel
  have right : isFinite (-Scalar.pi : Float) = true := by decide +kernel
  have half : signedSteps (Scalar.pi : Float) = halfSteps := by decide +kernel
  have seam : signedSteps (-Scalar.pi : Float) = -halfSteps := by decide +kernel
  rw [← seam, ← half, ← lt_iff_steps right finite, ← le_iff_steps finite left]
  exact ⟨fun wrapped => ⟨wrapped.above, wrapped.below⟩, fun ⟨above, below⟩ => ⟨finite, above, below⟩⟩

theorem Wrapped.normalize_eq {w : Float} (wrapped : Wrapped w) : normalize w = some w := by
  obtain ⟨above, below⟩ := (wrapped_iff_steps wrapped.finite).mp wrapped
  exact normalize_self wrapped.finite above below

theorem normalize_wrapped {a : Float} (finite : isFinite a = true) :
    ∃ w, normalize a = some w ∧ Wrapped w := by
  obtain ⟨w, wrapped, known, above, below, _⟩ := normalize_steps finite
  exact ⟨w, wrapped, (wrapped_iff_steps known).mpr ⟨above, below⟩⟩

theorem Represents.eq_wrap {angle r : ℚ} (represents : Represents angle r) :
    letI := Circular.ofHalfTurn halfTurn halfTurn_pos
    Exact.wrap angle = r := by
  let circular := Circular.ofHalfTurn halfTurn halfTurn_pos
  obtain ⟨n, turns⟩ := represents.turns
  refine Exact.wrap_eq represents.above represents.below ⟨n, ?_⟩
  change angle = r + n * (2 * halfTurn)
  linarith

theorem Represents.unique {angle r s : ℚ} (one : Represents angle r) (two : Represents angle s) :
    s = r :=
  two.eq_wrap.symm.trans one.eq_wrap

theorem normalize_represents {a : Float} (finite : isFinite a = true) :
    ∃ w, normalize a = some w ∧ isFinite w = true ∧ Represents (value a) (value w) ∧
      normalize w = some w := by
  obtain ⟨w, wrapped, known, above, below, n, turns⟩ := normalize_steps finite
  refine ⟨w, wrapped, known, ?_, normalize_self known above below⟩
  have unit : (0 : ℚ) < 2 ^ 1074 := by positivity
  have low : (-halfSteps : ℚ) < signedSteps w := by exact_mod_cast above
  have high : (signedSteps w : ℚ) ≤ halfSteps := by exact_mod_cast below
  have whole : (signedSteps w : ℚ) = signedSteps a - n * (2 * halfSteps) := by exact_mod_cast turns
  constructor
  · rw [value_eq known, halfTurn_eq, ← neg_div]
    exact div_lt_div_of_pos_right low unit
  · rw [value_eq known, halfTurn_eq]
    exact div_le_div_of_nonneg_right high unit.le
  · refine ⟨n, ?_⟩
    rw [value_eq known, value_eq finite, halfTurn_eq, whole, sub_div, mul_div_assoc, mul_div_assoc]

/-- Half a turn to the right is half a turn to the left. -/
theorem Represents.odd {angle : ℚ} (odd : ∃ k : ℤ, angle = (2 * k + 1) * halfTurn) :
    Represents angle halfTurn := by
  obtain ⟨k, half⟩ := odd
  have positive := halfTurn_pos
  refine ⟨by linarith, le_rfl, k, ?_⟩
  linarith

theorem Represents.neg {angle r : ℚ} (represents : Represents angle r)
    (even : ¬ ∃ k : ℤ, angle = (2 * k + 1) * halfTurn) : Represents (-angle) (-r) := by
  obtain ⟨above, below, n, turns⟩ := represents
  have short : r ≠ halfTurn := by
    rintro rfl
    exact even ⟨n, by linarith⟩
  have inside := lt_of_le_of_ne below short
  refine ⟨by linarith, by linarith, -n, ?_⟩
  push_cast
  linarith

/-- The wrapping of a finite angle is its representative, and there is one only. So the error between
two headings is that of their difference, and the error the other way round takes it back, except that
half a turn goes left both ways. -/
theorem wrapping_is_exact :
    (∀ a : Float, isFinite a = true →
      ∃ w, normalize a = some w ∧ isFinite w = true ∧ Represents (value a) (value w) ∧
        (∀ r, Represents (value a) r → r = value w) ∧ normalize w = some w) ∧
    ∀ current target : Float, isFinite current = true → isFinite target = true →
      isFinite (target - current) = true →
      ∃ e back, error current target = some e ∧ error target current = some back ∧
        isFinite e = true ∧ isFinite back = true ∧
        Represents (value (target - current)) (value e) ∧
        ((∃ k : ℤ, value (target - current) = (2 * k + 1) * halfTurn) →
          value e = halfTurn ∧ value back = halfTurn) ∧
        ((¬ ∃ k : ℤ, value (target - current) = (2 * k + 1) * halfTurn) →
          value back = -value e) := by
  constructor
  · intro a finite
    obtain ⟨w, wrapped, known, represents, again⟩ := normalize_represents finite
    exact ⟨w, wrapped, known, represents, fun r other => represents.unique other, again⟩
  · intro current target here there difference
    obtain ⟨reverse, opposite⟩ := sub_swap there here difference
    obtain ⟨e, ahead, known, represents, _⟩ := normalize_represents difference
    obtain ⟨back, behind, seen, other, _⟩ := normalize_represents reverse
    rw [opposite] at other
    refine ⟨e, back, ahead, behind, known, seen, represents, fun odd => ?_, fun even => ?_⟩
    · obtain ⟨k, half⟩ := odd
      have turned : Represents (-value (target - current)) halfTurn := by
        refine .odd ⟨-k - 1, ?_⟩
        rw [half]
        push_cast
        ring
      exact ⟨(represents.unique (.odd ⟨k, half⟩)).symm, (other.unique turned).symm⟩
    · exact other.unique (represents.neg even) |>.symm

theorem half_turn_goes_left_both_ways :
    (∃ w, normalize (-Scalar.pi : Float) = some w ∧ value w = halfTurn ∧ normalize w = some w) ∧
      ∃ e back, error (0.0 : Float) Scalar.pi = some e ∧ error Scalar.pi (0.0 : Float) = some back ∧
        value e = halfTurn ∧ value back = halfTurn := by
  have known : isFinite (Scalar.pi : Float) = true := by decide +kernel
  have seam : isFinite (-Scalar.pi : Float) = true := by decide +kernel
  have whole : (Scalar.pi : Float) - 0.0 = Scalar.pi := by decide +kernel
  constructor
  · obtain ⟨w, wrapped, _, _, only, again⟩ := wrapping_is_exact.1 (-Scalar.pi) seam
    have half : value (-Scalar.pi : Float) = (2 * (-1 : ℤ) + 1) * halfTurn := by
      rw [value, decoded_neg, (Opposite.neg _).rational_eq]
      change -halfTurn = _
      push_cast
      ring
    exact ⟨w, wrapped, (only halfTurn (.odd ⟨-1, half⟩)).symm, again⟩
  · obtain ⟨e, back, ahead, behind, _, _, _, odd, _⟩ :=
      wrapping_is_exact.2 0.0 Scalar.pi (by decide +kernel) known (by rwa [whole])
    refine ⟨e, back, ahead, behind, odd ⟨0, ?_⟩⟩
    rw [whole]
    change halfTurn = _
    push_cast
    ring

end Quadruped.Angle
