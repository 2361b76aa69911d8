import Quadruped.Plan.Runner
import Quadruped.Sampler

/-!
A plan runner at work: it is fed by a sampler of its own.
-/
namespace Quadruped

structure Pilot (R : Type) where
  runner : Runner R
  sampler : Sampler R

namespace Pilot

variable {R : Type} [Scalar R]

def ofRunner (runner : Runner R) : Pilot R := ⟨runner, .empty⟩

def hear (p : Pilot R) (sample : Pose R) : Pilot R × List (Note R) :=
  let (sampler, notes) := p.sampler.update sample
  ({ p with sampler }, notes)

def start (p : Pilot R) (items : List (PlanItem R)) (heading : Option R) :
    Outcome R (Pilot R) Unit :=
  (p.runner.start items heading).within fun runner => { p with runner }

def cancel (p : Pilot R) : Pilot R × List (Note R) :=
  let (runner, notes) := p.runner.cancel
  ({ p with runner }, notes)

def tickAt (t : Instants R) (p : Pilot R) : Outcome R (Pilot R) (Option (Command R)) :=
  (p.runner.tickAt t p.sampler.slot.value).within fun runner => { p with runner }

def tick (now : R) (p : Pilot R) : Outcome R (Pilot R) (Option (Command R)) :=
  p.tickAt (.frozen now)

end Pilot
end Quadruped
