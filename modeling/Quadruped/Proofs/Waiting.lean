import Mathlib.Algebra.Order.Archimedean.Basic
import Quadruped.Proofs.Number.Exact
import Quadruped.Sampler

/-!
How a wait for the first pose ends, with exact numbers. It looks at once and then after every interval,
and the first look that finds a pose or comes at the deadline or later decides; a pose wins over the
deadline.
-/
namespace Quadruped.Sampler

variable {R K : Type}

def receive (s : Sampler R) (poses : List (Pose R)) : Sampler R :=
  poses.foldl (fun s p => (s.update p).1) s

/-- So many looks of a wait at most, with the time of each. The poses of `arrivals n` come before the
n-th look; one that comes at the very instant of a look may stand before it or behind it. After a look
that decides nothing the wait sleeps until the next. -/
def looks [Scalar R] (w : Wait R) : R → Sampler R → (ℕ → List (Pose R)) → ℕ → List (R × Look R)
  | _, _, _, 0 => []
  | now, s, arrivals, n + 1 =>
    let s := s.receive (arrivals 0)
    match s.look w now with
    | .again pause => (now, .again pause) :: looks w (now + pause) s (fun i => arrivals (i + 1)) n
    | decision => [(now, decision)]

def arrived (arrivals : ℕ → List (Pose R)) (n : ℕ) : List (Pose R) :=
  (List.range (n + 1)).flatMap arrivals

theorem receive_append (s : Sampler R) (first later : List (Pose R)) :
    s.receive (first ++ later) = (s.receive first).receive later :=
  List.foldl_append

theorem receive_slot (s : Sampler R) (poses : List (Pose R)) :
    (s.receive poses).slot.value = poses.getLast?.or s.slot.value := by
  induction poses using List.reverseRecOn with
  | nil => rfl
  | append_singleton poses p ih =>
    rw [receive_append, List.getLast?_concat]
    rfl

theorem arrived_succ (arrivals : ℕ → List (Pose R)) (n : ℕ) :
    arrived arrivals (n + 1) = arrivals 0 ++ arrived (fun i => arrivals (i + 1)) n := by
  unfold arrived
  rw [List.range_succ_eq_map, List.flatMap_cons, List.flatMap_map]

def newest (s : Sampler R) (arrivals : ℕ → List (Pose R)) (n : ℕ) : Option (Pose R) :=
  (arrived arrivals n).getLast?.or s.slot.value

theorem newest_succ (s : Sampler R) (arrivals : ℕ → List (Pose R)) (n : ℕ) :
    (s.receive (arrivals 0)).newest (fun i => arrivals (i + 1)) n = s.newest arrivals (n + 1) := by
  unfold newest
  rw [receive_slot, arrived_succ, List.getLast?_append, Option.or_assoc]

theorem newest_zero (s : Sampler R) (arrivals : ℕ → List (Pose R)) :
    (s.receive (arrivals 0)).slot.value = s.newest arrivals 0 := by
  rw [receive_slot, newest, arrived]
  simp

open Exact

variable [Field K] [LinearOrder K] [FloorRing K] [Circular K]

theorem look_exact (s : Sampler K) (w : Wait K) (now : K) :
    s.look w now = match s.slot.value with
      | some p => .found p
      | none => if w.deadline ≤ now then .expired (.noPoseWithin w.timeout) else .again w.interval := by
  unfold look
  cases s.slot.value with
  | some p => rfl
  | none => simp only [le_exact]

theorem looks_again {w : Wait K} {now : K} {s : Sampler K} {arrivals : ℕ → List (Pose K)}
    (nothing : s.newest arrivals 0 = none) (early : now < w.deadline) (n : ℕ) :
    looks w now s arrivals (n + 1) = (now, .again w.interval) ::
      looks w (now + w.interval) (s.receive (arrivals 0)) (fun i => arrivals (i + 1)) n := by
  rw [looks, look_exact, newest_zero, nothing]
  dsimp only
  rw [if_neg early.not_ge]

/-- What the look that decides comes to: a pose counts even where the deadline has passed. -/
def Wait.verdict (w : Wait R) : Option (Pose R) → Look R
  | some p => .found p
  | none => .expired (.noPoseWithin w.timeout)

theorem looks_decided {w : Wait K} {now : K} {s : Sampler K} {arrivals : ℕ → List (Pose K)}
    (decides : s.newest arrivals 0 ≠ none ∨ w.deadline ≤ now) (n : ℕ) :
    looks w now s arrivals (n + 1) = [(now, w.verdict (s.newest arrivals 0))] := by
  rw [looks, look_exact, newest_zero]
  cases newest : s.newest arrivals 0 with
  | some p => rfl
  | none =>
    have late := decides.resolve_left (not_not.mpr newest)
    dsimp only
    rw [if_pos late]
    rfl

theorem looks_until {w : Wait K} {now : K} {s : Sampler K} {arrivals : ℕ → List (Pose K)} {k : ℕ}
    (waits : ∀ j < k, s.newest arrivals j = none ∧ now + j * w.interval < w.deadline)
    (decides : s.newest arrivals k ≠ none ∨ w.deadline ≤ now + k * w.interval) (n : ℕ) :
    looks w now s arrivals n =
      ((List.range k).map (fun j : ℕ => (now + j * w.interval, Look.again w.interval)) ++
        [(now + k * w.interval, w.verdict (s.newest arrivals k))]).take n := by
  induction k generalizing now s arrivals n with
  | zero =>
    rw [Nat.cast_zero, zero_mul, add_zero] at decides ⊢
    cases n with
    | zero => rfl
    | succ n => rw [looks_decided decides]; simp
  | succ k ih =>
    cases n with
    | zero => rfl
    | succ n =>
      have moved (j : ℕ) : now + (j + 1 : ℕ) * w.interval = now + w.interval + j * w.interval := by
        push_cast
        ring
      obtain ⟨nothing, early⟩ := waits 0 k.succ_pos
      rw [Nat.cast_zero, zero_mul, add_zero] at early
      have later : ∀ j < k, (s.receive (arrivals 0)).newest (fun i => arrivals (i + 1)) j = none ∧
          now + w.interval + j * w.interval < w.deadline := by
        intro j less
        rw [newest_succ, ← moved]
        exact waits (j + 1) (Nat.succ_lt_succ less)
      rw [looks_again nothing early, ih later (by rw [newest_succ, ← moved]; exact decides),
        newest_succ, List.range_succ_eq_map, List.map_cons, List.map_map, List.cons_append,
        List.take_succ_cons, Nat.cast_zero, zero_mul, add_zero, moved]
      congr 4
      funext j
      rw [Function.comp_apply, moved]

variable [IsStrictOrderedRing K]

/-- A wait that began at `start` looks then and after every interval. The first look that finds a pose
or comes no sooner than the timeout decides: for the newest pose if there is one, otherwise that it
is too late. It comes before the timeout and one interval more have passed. -/
theorem wait_ends_at_first_deciding_look (s : Sampler K) (timeout start : K) {interval : K}
    (positive : 0 < interval) (arrivals : ℕ → List (Pose K)) :
    ∃ (k : ℕ) (verdict : Look K),
      IsLeast {j : ℕ | s.newest arrivals j ≠ none ∨ start + timeout ≤ start + j * interval} k ∧
      (∀ p, s.newest arrivals k = some p → verdict = .found p) ∧
      (s.newest arrivals k = none → verdict = .expired (.noPoseWithin timeout)) ∧
      (∀ n, looks (.ofTimeout timeout interval start) start s arrivals n =
        ((List.range k).map (fun j : ℕ => (start + j * interval, Look.again interval)) ++
          [(start + k * interval, verdict)]).take n) ∧
      start + k * interval < start + (max timeout 0 + interval) := by
  have archimedean : Archimedean K := FloorRing.archimedean K
  obtain ⟨many, past⟩ := Archimedean.arch timeout positive
  rw [nsmul_eq_mul] at past
  have ends : ∃ j : ℕ, s.newest arrivals j ≠ none ∨ start + timeout ≤ start + j * interval :=
    ⟨many, .inr (by linarith)⟩
  classical
  have first := Nat.isLeast_find ends
  generalize Nat.find ends = k at first
  obtain ⟨decides, least⟩ := first
  have waits : ∀ j < k, s.newest arrivals j = none ∧ start + j * interval < start + timeout := by
    intro j less
    have undecided : ¬(s.newest arrivals j ≠ none ∨ start + timeout ≤ start + j * interval) :=
      mt (@least j) less.not_ge
    rwa [not_or, not_not, not_le] at undecided
  refine ⟨k, (Wait.ofTimeout timeout interval start).verdict (s.newest arrivals k),
    ⟨decides, least⟩, ?_, ?_, looks_until waits decides, ?_⟩
  · rintro p found
    rw [found]
    rfl
  · intro nothing
    rw [nothing]
    rfl
  · have slack := le_max_right timeout 0
    have reach := le_max_left timeout 0
    cases k with
    | zero =>
      rw [Nat.cast_zero, zero_mul]
      linarith
    | succ k =>
      have before := (waits k k.lt_succ_self).2
      push_cast
      linarith

/-- A pose that comes after the last look before the timeout is found by the next one, which is too late
already. -/
theorem late_pose_is_found :
    letI := Circular.ofHalfTurn (1 : ℚ) one_pos
    let p : Pose ℚ := ⟨0, 0, 0, 1, 5 / 2⟩
    let arrivals : ℕ → List (Pose ℚ) := fun n => if n = 3 then [p] else []
    (0 : ℚ) < 1 ∧ looks (.ofTimeout (5 / 2) 1 0) 0 empty arrivals 9 =
      [(0, .again 1), (1, .again 1), (2, .again 1), (3, .found p)] := by
  let circular := Circular.ofHalfTurn (1 : ℚ) one_pos
  intro p arrivals
  obtain ⟨k, verdict, first, found, -, looked, -⟩ :=
    wait_ends_at_first_deciding_look empty (5 / 2 : ℚ) 0 one_pos arrivals
  have third : IsLeast {j : ℕ | (empty : Sampler ℚ).newest arrivals j ≠ none ∨
      (0 : ℚ) + 5 / 2 ≤ 0 + j * 1} 3 := by
    refine ⟨.inl (by decide), fun j decides => ?_⟩
    by_contra sooner
    have few : j = 0 ∨ j = 1 ∨ j = 2 := by omega
    have nothing : (empty : Sampler ℚ).newest arrivals j = none := by
      rcases few with rfl | rfl | rfl <;> rfl
    have late := decides.resolve_left (not_not.mpr nothing)
    rcases few with rfl | rfl | rfl <;> norm_num at late
  obtain rfl := first.unique third
  obtain rfl := found p rfl
  refine ⟨one_pos, (looked 9).trans ?_⟩
  simp [List.range_succ]

end Quadruped.Sampler
