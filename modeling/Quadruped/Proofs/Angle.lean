import Quadruped.Angle
import Quadruped.Proofs.Number.Representable

/-!
Angles on doubles. The clamp of a correction holds for every value at all: one that is too great, one
that is infinite, and one that is no number.
-/
namespace Quadruped.Angle

open Number

theorem normalize_fails {h : Float} : normalize h = none ↔ ∃ negative, h = infinite negative := by
  unfold normalize
  rw [Option.map_eq_none_iff]
  exact remainder_fails (by decide +kernel) (by decide +kernel) (by decide +kernel)

theorem remainder_small {h : Float} (finite : isFinite h = true) :
    ∃ w, Scalar.remainder h Scalar.twoPi = some w ∧ Within (-49) w := by
  have turn : isFinite (Scalar.twoPi : Float) = true := by decide +kernel
  have positive : 0 < steps (Scalar.twoPi : Float) := by decide +kernel
  obtain ⟨w, left, known, half, _⟩ := remainder_steps finite turn positive
  have rest : steps w ≤ steps (Scalar.twoPi : Float) := by omega
  have short : steps (Scalar.twoPi : Float) < 2 ^ (1024 + 53) := by decide +kernel
  refine ⟨w, left, ?_⟩
  rw [← ofSteps_steps known]
  exact ofSteps_within _ (by decide) (Nat.lt_of_le_of_lt rest short)

theorem normalize_small {h : Float} (finite : isFinite h = true) :
    ∃ w, normalize h = some w ∧ Small w := by
  obtain ⟨r, left, small⟩ := remainder_small finite
  have turn : Within (-49) (Scalar.twoPi : Float) :=
    show Fits ((1026 : Nat) - 1075) _ from
      fits_of_magnitude (by decide) (by decide) (by decide +kernel)
  unfold normalize
  rw [left]
  dsimp only [Option.map_some]
  split
  · exact ⟨_, rfl, (small.add (by decide) (by decide) turn).mono (by decide)⟩
  · exact ⟨_, rfl, small.mono (by decide)⟩

/-- However far the robot has turned, its error to a small heading is a number, and small. -/
theorem error_small {current target : Float} (finite : isFinite current = true)
    (small : Small target) : ∃ e, error current target = some e ∧ Small e :=
  normalize_small (Small.sub small (within_of_isFinite finite)).isFinite

theorem clamp_within {low high : Float} (value : Float) (lower : low ≤ low) (upper : high ≤ high)
    (order : low ≤ high) : low ≤ clamp value low high ∧ clamp value low high ≤ high := by
  have capped : Scalar.smaller high value ≤ high := by
    unfold Scalar.smaller
    split
    · rename_i less
      exact le_of_lt (of_decide_eq_true less)
    · exact upper
  unfold clamp Scalar.larger
  split
  · rename_i less
    exact ⟨le_of_lt (of_decide_eq_true less), capped⟩
  · exact ⟨lower, order⟩

/-- A correction lies within its limit, and is a number. -/
theorem correction_within {yaw target gain limit c : Float} (nonneg : 0.0 ≤ limit)
    (corrected : correction yaw target gain limit = some c) :
    -limit ≤ c ∧ c ≤ limit ∧ (c == c) = true := by
  obtain ⟨e, _, rfl⟩ := Option.map_eq_some_iff.mp corrected
  obtain ⟨above, below⟩ := clamp_within (e * gain) (neg_le_neg_of_nonneg nonneg)
    (le_self_of_nonneg nonneg) (neg_le_of_nonneg nonneg)
  exact ⟨above, below, eq_self_of_le above⟩

theorem clamp_finite {low high : Float} (value : Float) (lower : isFinite low = true)
    (upper : isFinite high = true) : isFinite (clamp value low high) = true := by
  unfold clamp Scalar.larger
  split
  · rename_i above
    unfold Scalar.smaller at above ⊢
    split at above
    · rename_i below
      rw [if_pos below]
      exact isFinite_of_between (of_decide_eq_true above) (of_decide_eq_true below)
    · rename_i below
      rwa [if_neg below]
  · exact lower

theorem correction_finite {yaw target : Float} (gain : Float) {limit : Float}
    (finite : isFinite yaw = true) (small : Small target) (limited : isFinite limit = true) :
    ∃ c, correction yaw target gain limit = some c ∧ isFinite c = true := by
  obtain ⟨e, erred, _⟩ := error_small finite small
  refine ⟨clamp (e * gain) (-limit) limit, by rw [correction, erred]; rfl, ?_⟩
  exact clamp_finite (e * gain) (within_of_isFinite limited).neg.isFinite limited

example : clamp notANumber (-0.3) 0.3 = 0.3 := by decide +kernel

end Quadruped.Angle
