import Quadruped.Proofs.Angle
import Quadruped.Proofs.Plan.Cancel
import Quadruped.Proofs.Supervisor.Course

/-!
A start of a plan that fails. The plan and the state of the runner are looked at before anything is
changed; the heading is looked at last, and an infinite one is refused only when the new plan is in
place already.
-/
namespace Quadruped

open Number

theorem Runner.reset_spent {R : Type} {r : Runner R} (rest : r.isRunning = false)
    (plan : List (Segment R)) : (r.reset plan).Spent :=
  ⟨rest, fun _ => rfl⟩

namespace Supervisor

/-- A start that fails changes nothing, so that a stop that is owed is still given, unless its heading
is infinite. An infinite heading leaves the plan in place in a runner that does not run it, and a stop
that was owed is never given. The mode is kept in either case. -/
theorem failed_start_keeps_unless_infinite (s : Supervisor Float) (items : List (PlanItem Float))
    (heading : Option Float) (why : Fault Float)
    (failed : (s.startPlan items heading).result = .error why) :
    let left := (s.startPlan items heading).state
    left = { s with runner := (s.runner.start items heading).state } ∧ left.mode = s.mode ∧
      (left = s ∧
          ((∃ fault, why = .plan fault ∧ Plan.check items = .error fault) ∨
            why = .planRunning ∧ s.runner.isRunning = true) ∨
        why = .domain ∧ s.runner.isRunning = false ∧
          ∃ plan negative, Plan.check items = .ok plan ∧
            heading = some (infinite negative) ∧
            left = { s with runner := s.runner.reset plan } ∧
            ∀ p : Pilot Float, p.runner = left.runner → ∀ acts : List (Pilot.Act Float),
              (∀ a ∈ acts, a.starts = false) →
              (p.fly acts).1.runner = left.runner ∧
                (p.fly acts).2 = List.replicate (acts.countP Pilot.Act.isTick) (.ok none)) := by
  intro left
  have refused : (s.runner.start items heading).result = .error why := by
    cases started : (s.runner.start items heading).result with
    | ok u => cases failed.symm.trans (startPlan_succeeds started).2
    | error fault => exact (startPlan_fails started).2.symm.trans failed
  have whole : left = { s with runner := (s.runner.start items heading).state } :=
    (startPlan_fails refused).1
  refine ⟨whole, congrArg (·.mode) whole, ?_⟩
  have attempt := s.runner.start_attempt items heading
  rw [refused] at attempt
  generalize (s.runner.start items heading).state = r at attempt whole
  cases attempt with
  | rejected fault bad => exact .inl ⟨whole, .inl ⟨fault, rfl, bad⟩⟩
  | occupied plan passed running => exact .inl ⟨whole, .inr ⟨rfl, running⟩⟩
  | lost plan passed rest h faces nowhere =>
    obtain ⟨negative, rfl⟩ := Angle.normalize_fails.mp nowhere
    refine .inr ⟨rfl, rest, plan, negative, passed, faces, whole, ?_⟩
    intro p same acts keep
    have spent : p.runner.Spent := by
      rw [same, whole]
      exact Runner.reset_spent rest plan
    rw [← same]
    exact Pilot.fly_spent spent keep

theorem infinite_heading_leaves_nothing_to_give :
    let s := ((standard 0 []).obey (.startPlan [.segment (.travel 10)] none)).obey .cancelPlan
    let left := (s.startPlan [.segment (.turn 1)] (some (infinite false))).state
    let acts : List (Pilot.Act Float) := [.tick ⟨0, 0, 0⟩, .cancel, .tick ⟨1, 1, 1⟩]
    (s.startPlan [.segment (.turn 1)] (some (infinite false))).result = .error .domain ∧
      left.currentMode = s.currentMode ∧
      ((Pilot.ofRunner left.runner).fly acts).2 = [.ok none, .ok none] := by
  intro s left acts
  have failed : (s.startPlan [.segment (.turn 1)] (some (infinite false))).result =
      .error .domain := by decide +kernel
  have keep : ∀ a ∈ acts, a.starts = false := by simp [acts, Pilot.Act.starts]
  obtain ⟨_, mode, outcome⟩ := failed_start_keeps_unless_infinite s _ _ _ failed
  refine ⟨failed, congrArg Cell.value mode, ?_⟩
  rcases outcome with ⟨_, ⟨fault, same, _⟩ | ⟨same, _⟩⟩ | ⟨_, _, plan, negative, _, _, _, later⟩
  · cases same
  · cases same
  · exact (later (.ofRunner left.runner) rfl acts keep).2

/-- The start is refused, and yet the plan, the progress and the stop that was owed are gone. -/
theorem refused_start_is_not_undone :
    let s := ((standard 0 []).obey (.startPlan [.segment (.travel 10)] none)).obey .cancelPlan
    let o := s.runner.start [.segment (.turn 1)] (some (infinite false))
    o.result = .error .domain ∧ o.state ≠ s.runner ∧
      (s.runner.remaining = 0 ∧ o.state.remaining = 1) ∧
      (s.runner.isFinished = false ∧ o.state.isFinished = true) ∧
      (s.runner.tick 0 none).result = .ok (some .stop) ∧ (o.state.tick 0 none).result = .ok none := by
  decide +kernel

end Supervisor
end Quadruped
