import Mathlib.Algebra.Order.Floor.Ring
import Mathlib.Algebra.Order.ToIntervalMod
import Mathlib.Tactic.FieldSimp
import Mathlib.Tactic.Linarith
import Quadruped.Angle

/-!
The control laws read with exact numbers: those of an ordered field with a floor, whatever positive
number half a turn is there, and whatever the sine, the cosine and the hypotenuse are.
-/
namespace Quadruped

/-- What an ordered field lacks to have angles. -/
class Circular (K : Type) [Zero K] [LT K] where
  pi : K
  pi_pos : 0 < pi
  hypot : K → K → K
  sin : K → K
  cos : K → K

variable {K : Type} [Field K] [LinearOrder K] [FloorRing K]

/-- Angles in which half a turn is the given number; no law of rotations reads the other functions. -/
abbrev Circular.ofHalfTurn (half : K) (positive : 0 < half) : Circular K :=
  ⟨half, positive, fun _ _ => 0, fun _ => 0, fun _ => 1⟩

namespace Exact

/-- The nearest integer, a tie going to the even one. -/
def nearestEven (x : K) : ℤ :=
  let low := ⌊x⌋
  if x - low < 1 / 2 then low
  else if 1 / 2 < x - low then low + 1
  else if low % 2 = 0 then low
  else low + 1

theorem nearestEven_error [IsStrictOrderedRing K] (x : K) : |x - nearestEven x| ≤ 1 / 2 := by
  have below := Int.floor_le x
  have above := Int.lt_floor_add_one x
  unfold nearestEven
  dsimp only
  split_ifs with less greater even
  all_goals
    push_cast
    rw [abs_le]
    constructor <;> linarith

variable [Circular K]

scoped instance : Scalar K where
  lt a b := decide (a < b)
  le a b := decide (a ≤ b)
  eq a b := decide (a = b)
  finite _ := true
  pi := Circular.pi
  remainder a b := if b = 0 then none else some (a - nearestEven (a / b) * b)
  hypot := Circular.hypot
  sin := Circular.sin
  cos := Circular.cos

open Circular

@[simp] theorem lt_exact (a b : K) : Scalar.lt a b = true ↔ a < b := decide_eq_true_iff

@[simp] theorem le_exact (a b : K) : Scalar.le a b = true ↔ a ≤ b := decide_eq_true_iff

theorem inWindow_exact (tolerance e : K) :
    Angle.inWindow tolerance e = true ↔ -tolerance ≤ e ∧ e < tolerance := by
  simp [Angle.inWindow]

variable [IsStrictOrderedRing K]

theorem turn_pos : (0 : K) < 2 * pi := by linarith [pi_pos (K := K)]

/-- The angle that is a whole number of turns away and lies within half a turn of zero, above minus
half a turn. -/
noncomputable def wrap (a : K) : K := toIocMod (turn_pos (K := K)) (-pi) a

theorem wrap_mem (a : K) : -pi < wrap a ∧ wrap a ≤ pi := by
  obtain ⟨above, below⟩ := toIocMod_mem_Ioc (turn_pos (K := K)) (-pi) a
  exact ⟨above, by unfold wrap; linarith⟩

theorem wrap_eq {a b : K} (above : -pi < b) (below : b ≤ pi)
    (turns : ∃ n : ℤ, a = b + n * (2 * pi)) : wrap a = b := by
  obtain ⟨n, whole⟩ := turns
  refine (toIocMod_eq_iff turn_pos).mpr ⟨⟨above, by linarith⟩, n, ?_⟩
  rw [zsmul_eq_mul]
  exact whole

theorem wrap_self {a : K} (above : -pi < a) (below : a ≤ pi) : wrap a = a :=
  wrap_eq above below ⟨0, by simp⟩

theorem wrap_turns (a : K) : ∃ n : ℤ, wrap a = a - n * (2 * pi) := by
  refine ⟨toIocDiv (turn_pos (K := K)) (-pi) a, ?_⟩
  have whole := toIocMod_add_toIocDiv_zsmul (turn_pos (K := K)) (-pi) a
  rw [zsmul_eq_mul] at whole
  unfold wrap
  linarith

theorem wrap_add_wrap (a b : K) : wrap (a + wrap b) = wrap (a + b) := by
  obtain ⟨n, eq⟩ := wrap_turns b
  obtain ⟨above, below⟩ := wrap_mem (a + b)
  obtain ⟨m, whole⟩ := wrap_turns (a + b)
  refine wrap_eq above below ⟨m - n, ?_⟩
  push_cast
  linarith

theorem wrap_sub_wrap (a b : K) : wrap (a - wrap b) = wrap (a - b) := by
  obtain ⟨n, eq⟩ := wrap_turns b
  obtain ⟨above, below⟩ := wrap_mem (a - b)
  obtain ⟨m, whole⟩ := wrap_turns (a - b)
  refine wrap_eq above below ⟨m + n, ?_⟩
  push_cast
  linarith

theorem wrap_wrap_sub (a b : K) : wrap (wrap a - b) = wrap (a - b) := by
  rw [sub_eq_neg_add, wrap_add_wrap, ← sub_eq_neg_add]

theorem abs_wrap_le (a : K) : |wrap a| ≤ |a| := by
  obtain ⟨above, below⟩ := wrap_mem a
  by_cases inside : -pi < a ∧ a ≤ pi
  · rw [wrap_self inside.1 inside.2]
  · have far : pi ≤ |a| := by
      rw [le_abs]
      by_cases low : -pi < a
      · exact .inl (le_of_lt (not_le.mp fun high => inside ⟨low, high⟩))
      · exact .inr (by linarith [not_lt.mp low])
    exact (abs_le.mpr ⟨above.le, below⟩).trans far

theorem remainder_exact (a : K) {b : K} (positive : 0 < b) :
    ∃ n : ℤ, Scalar.remainder a b = some (a - n * b) ∧ |a - n * b| ≤ b / 2 := by
  refine ⟨nearestEven (a / b), if_neg positive.ne', ?_⟩
  have error := nearestEven_error (a / b)
  have scaled : a - nearestEven (a / b) * b = (a / b - nearestEven (a / b)) * b := by
    field_simp
  rw [scaled, abs_mul, abs_of_pos positive]
  calc |a / b - nearestEven (a / b)| * b ≤ 1 / 2 * b :=
        mul_le_mul_of_nonneg_right error positive.le
    _ = b / 2 := by ring

theorem normalize_exact (a : K) : Angle.normalize a = some (wrap a) := by
  have turn : (Scalar.twoPi : K) = 2 * pi := (two_mul pi).symm
  obtain ⟨n, left, near⟩ := remainder_exact a (turn_pos (K := K))
  obtain ⟨above, below⟩ := abs_le.mp near
  have wrapped : Angle.normalize a =
      some (if a - n * (2 * pi) ≤ -pi then a - n * (2 * pi) + 2 * pi else a - n * (2 * pi)) := by
    simp only [Angle.normalize, turn, left, Option.map_some, le_exact]
    rfl
  rw [wrapped]
  congr 1
  by_cases low : a - n * (2 * pi) ≤ -pi
  · rw [if_pos low]
    refine (wrap_eq (by linarith [pi_pos (K := K)]) (by linarith) ⟨n - 1, ?_⟩).symm
    push_cast
    linarith
  · rw [if_neg low]
    exact (wrap_eq (not_le.mp low) (by linarith) ⟨n, by ring⟩).symm

theorem error_exact (current target : K) :
    Angle.error current target = some (wrap (target - current)) :=
  normalize_exact (target - current)

end Exact
end Quadruped
