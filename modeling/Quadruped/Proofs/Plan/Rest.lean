import Quadruped.Number.Double
import Quadruped.Proofs.Plan.Check
import Quadruped.Proofs.Plan.Start

/-!
A plan runner at rest: one that runs no plan. It comes to rest by a cancel, has at most one more
command to give, the stop of the plan that was cancelled, and stays at rest until a start succeeds.
-/
namespace Quadruped.Runner

def standard : Runner Float where
  gains := .standard
  source := .elapsed
  turn := .ofRates 0.5 0.05
  phase := .idle
  plan := []
  completed := 0
  stopPending := false
  pauseUntil := none
  active := false
  heading := none
  travelStart := 0
  travelOrigin := (0, 0)

variable {R : Type}

theorem cancel_rests (r : Runner R) : r.cancel.1.isRunning = false := by
  unfold cancel
  split
  · rfl
  · rename_i rest
    simpa using rest

theorem finished_rests {r : Runner R} (finished : r.isFinished = true) : r.isRunning = false := by
  cases phase : r.phase <;> simp_all [isFinished, succeeded, isRunning]

variable [Scalar R]

theorem create_rests {gains : Gains R} {source : String} {r : Runner R}
    (made : create gains source = .ok r) : r.isRunning = false := by
  unfold create at made
  split at made
  · cases made
  · split at made
    · cases made
    · cases made; rfl

theorem failed_start_rests {r : Runner R} {items : List (PlanItem R)} {heading : Option R}
    {why : Fault R} (rest : r.isRunning = false)
    (failed : (r.start items heading).result = .error why) :
    (r.start items heading).state.isRunning = false := by
  have attempt := r.start_attempt items heading
  rw [failed] at attempt
  generalize (r.start items heading).state = s at attempt ⊢
  cases attempt with
  | rejected | occupied | lost => exact rest

theorem start_begins {r : Runner R} {items : List (PlanItem R)} {heading : Option R}
    (started : (r.start items heading).result = .ok ()) :
    ∃ plan held, Plan.check items = .ok plan ∧
      (r.start items heading).state = { r.reset plan with heading := held, phase := phaseOf plan } := by
  have attempt := r.start_attempt items heading
  rw [started] at attempt
  generalize (r.start items heading).state = s at attempt ⊢
  cases attempt with
  | begins plan passed rest held faces => exact ⟨plan, held, passed, rfl⟩

theorem start_runs {r : Runner R} {items : List (PlanItem R)} {heading : Option R}
    (started : (r.start items heading).result = .ok ()) :
    (r.start items heading).state.isRunning = true := by
  obtain ⟨plan, held, passed, begun⟩ := start_begins started
  rw [begun]
  cases plan with
  | nil => exact absurd rfl (Plan.checked_filled passed)
  | cons segment rest => cases segment <;> rfl

theorem start_while_running {r : Runner R} (running : r.isRunning = true)
    (items : List (PlanItem R)) (heading : Option R) :
    (r.start items heading).state = r ∧ ∃ why, (r.start items heading).result = .error why := by
  have attempt := r.start_attempt items heading
  generalize (r.start items heading).state = s, (r.start items heading).result = result at attempt ⊢
  cases attempt with
  | rejected fault bad => exact ⟨rfl, _, rfl⟩
  | occupied => exact ⟨rfl, _, rfl⟩
  | lost plan passed rest | begins plan passed rest =>
    rw [running] at rest
    cases rest

theorem tickAt_at_rest {r : Runner R} (rest : r.isRunning = false) (now : Instants R)
    (sample : Option (Pose R)) :
    (r.tickAt now sample).state.isRunning = false ∧
      ((r.tickAt now sample).result = .ok none ∨
        (r.tickAt now sample).result = .ok (some .stop)) := by
  unfold tickAt
  split
  · split
    · exact ⟨rest, .inr rfl⟩
    · exact ⟨rest, .inl rfl⟩
  · rw [rest]
    exact ⟨rest, .inl rfl⟩

end Quadruped.Runner
