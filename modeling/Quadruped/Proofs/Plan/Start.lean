import Quadruped.Plan.Runner
import Quadruped.Proofs.Outcome

/-!
The start of a plan. `Attempt` lists once what a start may come to: three refusals, each with what it
leaves of the runner, and the plan begun.
-/
namespace Quadruped.Runner

variable {R : Type} [Scalar R]

inductive Attempt (r : Runner R) (items : List (PlanItem R)) (heading : Option R) :
    Runner R → Except (Fault R) Unit → Prop where
  | rejected (fault : PlanFault R) (bad : Plan.check items = .error fault) :
      Attempt r items heading r (.error (.plan fault))
  | occupied (plan : List (Segment R)) (passed : Plan.check items = .ok plan)
      (running : r.isRunning = true) : Attempt r items heading r (.error .planRunning)
  /-- The heading is looked at last, when the plan is in place already. -/
  | lost (plan : List (Segment R)) (passed : Plan.check items = .ok plan)
      (rest : r.isRunning = false) (h : R) (faces : heading = some h)
      (nowhere : Angle.normalize h = none) :
      Attempt r items heading (r.reset plan) (.error .domain)
  | begins (plan : List (Segment R)) (passed : Plan.check items = .ok plan)
      (rest : r.isRunning = false) (held : Option R)
      (faces : heading = none ∧ held = none ∨
        ∃ h h', heading = some h ∧ Angle.normalize h = some h' ∧ held = some h') :
      Attempt r items heading { r.reset plan with heading := held, phase := phaseOf plan } (.ok ())

theorem start_attempt (r : Runner R) (items : List (PlanItem R)) (heading : Option R) :
    Attempt r items heading (r.start items heading).state (r.start items heading).result := by
  unfold start
  cases checked : Plan.check items with
  | error fault => exact .rejected fault checked
  | ok plan =>
    cases running : r.isRunning with
    | true => exact .occupied plan checked running
    | false =>
      cases heading with
      | none => exact .begins plan checked running none (.inl ⟨rfl, rfl⟩)
      | some h =>
        cases normal : Angle.normalize h with
        | none => simpa [normal] using Attempt.lost plan checked running h rfl normal
        | some h' =>
          simpa [normal] using
            Attempt.begins plan checked running (some h') (.inr ⟨h, h', rfl, normal, rfl⟩)

end Quadruped.Runner
