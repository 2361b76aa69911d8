import Quadruped.Proofs.Number.Exact
import Quadruped.Pacing

/-!
The pace of a keeper, with exact numbers. The deadline it hides is always one period after the end of
the frame before, so a frame ends when it is called for or one period after the frame before,
whichever is later.
-/
namespace Quadruped.Keeper

variable {R K : Type}

/-- So many frames from a time on, the n-th of them called for at `calls n`: the keeper, and the time
at which the last frame ended. -/
def frames [Scalar R] (k : Keeper R) (start : R) (calls : ℕ → R) : ℕ → Keeper R × R
  | 0 => (k, start)
  | n + 1 =>
    let (next, ended, _) := (k.frames start calls n).1.keep (calls (n + 1))
    (next, ended)

open Exact

variable [Field K] [LinearOrder K] [FloorRing K] [Circular K] {period : K}

theorem create_exact (positive : 0 < period) (lagWarning : Option K) (now : K) :
    create period lagWarning now = .ok ⟨period, lagWarning, now + period, 0⟩ :=
  if_neg (mt (le_exact _ _).mp positive.not_ge)

variable [IsStrictOrderedRing K]

theorem monitor_exact (k : Keeper K) (now : K) :
    (k.monitor now).1 = { k with due := max now k.due + k.period, frame := k.frame + 1 } ∧
      (k.monitor now).2.1 = k.due - now := by
  refine ⟨?_, rfl⟩
  have base : (if Scalar.lt (k.due - now) 0 then now else k.due) = max now k.due := by
    by_cases late : k.due - now < 0
    · rw [if_pos ((lt_exact _ _).mpr late), max_eq_left (by linarith)]
    · rw [if_neg (mt (lt_exact _ _).mp late), max_eq_right (by linarith)]
  rw [← base]
  rfl

theorem keep_exact (k : Keeper K) (now : K) :
    (k.keep now).1 = { k with due := max now k.due + k.period, frame := k.frame + 1 } ∧
      (k.keep now).2.1 = max now k.due := by
  obtain ⟨next, remaining⟩ := monitor_exact k now
  refine ⟨next, ?_⟩
  change (if Scalar.lt 0 (k.monitor now).2.1 then
    Scalar.larger now (now + (k.monitor now).2.1) else now) = max now k.due
  rw [remaining]
  by_cases early : 0 < k.due - now
  · have later : now < now + (k.due - now) := by linarith
    rw [if_pos ((lt_exact _ _).mpr early), Scalar.larger, if_pos ((lt_exact _ _).mpr later),
      max_eq_right (by linarith)]
    ring
  · rw [if_neg (mt (lt_exact _ _).mp early), max_eq_left (by linarith)]

/-- The keeper after `n` frames, of which the last one ended at the given time. -/
structure Paced (k : Keeper K) (every ended : K) (n : ℕ) : Prop where
  period : k.period = every
  due : k.due = ended + every
  frame : k.frame = n

variable {k : Keeper K} {start : K}

theorem keep_paced {ended : K} {n : ℕ} (paced : k.Paced period ended n) (now : K) :
    (k.keep now).2.1 = max now (ended + period) ∧
      (k.keep now).1.Paced period (k.keep now).2.1 (n + 1) := by
  obtain ⟨next, time⟩ := keep_exact k now
  rw [next, time, paced.due]
  exact ⟨rfl, paced.period, by rw [paced.period], congrArg (· + 1) paced.frame⟩

section
variable (paced : k.Paced period start 0) (calls : ℕ → K)
include paced

theorem frames_paced (n : ℕ) :
    (k.frames start calls n).1.Paced period (k.frames start calls n).2 n := by
  induction n with
  | zero => exact paced
  | succ n ih => exact (keep_paced ih (calls (n + 1))).2

theorem frames_recur (n : ℕ) :
    (k.frames start calls (n + 1)).2 =
      max (calls (n + 1)) ((k.frames start calls n).2 + period) :=
  (keep_paced (frames_paced paced calls n) (calls (n + 1))).1

/-- No burst of frames, whatever comes late. -/
theorem frames_apart (m n : ℕ) :
    (k.frames start calls m).2 + n * period ≤ (k.frames start calls (m + n)).2 := by
  induction n with
  | zero => simp
  | succ n ih =>
    have last := le_max_right (calls (m + n + 1)) ((k.frames start calls (m + n)).2 + period)
    rw [← frames_recur paced] at last
    rw [← add_assoc]
    push_cast
    linarith

/-- No drift as long as nothing comes late. -/
theorem frames_steady {n : ℕ}
    (punctual : ∀ i < n, calls (i + 1) ≤ (k.frames start calls i).2 + period) :
    (k.frames start calls n).2 = start + n * period := by
  induction n with
  | zero => simp [frames]
  | succ n ih =>
    rw [frames_recur paced, max_eq_right (punctual n n.lt_succ_self),
      ih fun i less => punctual i (by omega)]
    push_cast
    ring

end

/-- Each frame ends when it is called for or a period after the frame before, whichever is later. So no
burst of frames follows a late one, and there is no drift where none is late. -/
theorem frames_end_when_called_or_due (start : K) (lagWarning : Option K) (calls : ℕ → K)
    (positive : 0 < period) :
    ∃ k, create period lagWarning start = .ok k ∧
      (k.frames start calls 0).2 = start ∧
      (∀ n, (k.frames start calls (n + 1)).2 =
        max (calls (n + 1)) ((k.frames start calls n).2 + period)) ∧
      (∀ m n, m ≤ n →
        (n - m) * period ≤ (k.frames start calls n).2 - (k.frames start calls m).2) ∧
      (∀ n, (∀ i < n, calls (i + 1) ≤ (k.frames start calls i).2 + period) →
        (k.frames start calls n).2 = start + n * period) ∧
      ∀ n, (k.frames start calls n).1.frame = n := by
  have paced : Paced ⟨period, lagWarning, start + period, 0⟩ period start 0 := ⟨rfl, rfl, rfl⟩
  refine ⟨_, create_exact positive lagWarning start, rfl, frames_recur paced calls, ?_,
    fun n => frames_steady paced calls, fun n => (frames_paced paced calls n).frame⟩
  intro m n order
  obtain ⟨more, rfl⟩ := Nat.exists_eq_add_of_le order
  have apart := frames_apart paced calls m more
  push_cast
  linarith

/-- Half a second a frame: one in time, one late, and the next one half a second after that. -/
theorem late_frame_is_followed_by_none_too_soon :
    letI := Circular.ofHalfTurn (1 : ℚ) one_pos
    let calls : ℕ → ℚ := fun n => if n = 2 then 3 else n / 10
    (0 : ℚ) < 1 / 2 ∧ ∃ k, create (1 / 2 : ℚ) none 0 = .ok k ∧
      (k.frames 0 calls 1).2 = 1 / 2 ∧ (k.frames 0 calls 2).2 = 3 ∧
      (k.frames 0 calls 3).2 = 7 / 2 ∧ (k.frames 0 calls 3).1.frame = 3 := by
  let circular := Circular.ofHalfTurn (1 : ℚ) one_pos
  intro calls
  have positive : (0 : ℚ) < 1 / 2 := by norm_num
  obtain ⟨k, created, first, recurs, _, _, counted⟩ :=
    frames_end_when_called_or_due (0 : ℚ) none calls positive
  have one : (k.frames 0 calls 1).2 = 1 / 2 := by
    rw [recurs 0, first]
    norm_num [calls]
  have two : (k.frames 0 calls 2).2 = 3 := by
    rw [recurs 1, one]
    norm_num [calls]
  have three : (k.frames 0 calls 3).2 = 7 / 2 := by
    rw [recurs 2, two]
    norm_num [calls]
  exact ⟨positive, k, created, one, two, three, counted 3⟩

end Quadruped.Keeper
