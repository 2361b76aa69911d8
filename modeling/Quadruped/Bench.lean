import Quadruped.Supervisor.Run

/-!
A supervisor and its simulated robot together: the robot answers the supervisor's requests, and the
poses that it publishes reach the supervisor's sampler.
-/
namespace Quadruped

structure Bench (R : Type) where
  supervisor : Supervisor R
  rig : Rig R

namespace Bench

variable {R : Type} [Scalar R]

def isConnected (b : Bench R) : Bool := b.rig.simulator.connected

def moment (b : Bench R) (now : R) : Run.Moment R := .frozen now b.isConnected

def take (b : Bench R) (a : Rig.Answer R) : Bench R × Reply R × List (Note R) :=
  ({ b with rig := a.rig, supervisor := { b.supervisor with sampler := a.sampler } },
    a.reply, a.notes)

def subscribe (b : Bench R) : Bench R := { b with rig := b.rig.subscribe }

def connect (b : Bench R) (interface : String) (t : Simulator.Readings R) :
    Bench R × Reply R × List (Note R) :=
  b.take (b.rig.connect b.supervisor.sampler interface t)

def send (b : Bench R) (c : Command R) (t : Simulator.Readings R) :
    Bench R × Reply R × List (Note R) :=
  b.take (b.rig.send b.supervisor.sampler c t)

def disconnect (b : Bench R) : Bench R × Reply R × List (Note R) :=
  b.take (b.rig.disconnect b.supervisor.sampler)

/-- The answer to a request of a run; sleeping and finishing are not for the robot to answer. A run
subscribes the sampler before it connects. -/
def answer (b : Bench R) (t : Simulator.Readings R) :
    Request R → Bench R × Reply R × List (Note R)
  | .connect i => b.subscribe.connect i t
  | .send c => b.send c t
  | .disconnect => b.disconnect
  | .sleep _ => (b, .ok, [])
  | .finish _ => (b, .ok, [])

def withSupervisor {α : Type} (b : Bench R) (o : Outcome R (Supervisor R) α) :
    Outcome R (Bench R) α :=
  o.within fun supervisor => { b with supervisor }

def setMode (b : Bench R) (m : Mode) : Bench R × List (Note R) :=
  let (supervisor, notes) := b.supervisor.setMode m
  ({ b with supervisor }, notes)

def startPlan (b : Bench R) (items : List (PlanItem R)) (heading : Option R) :
    Outcome R (Bench R) Unit :=
  b.withSupervisor (b.supervisor.startPlan items heading)

def cancelPlan (b : Bench R) : Bench R × List (Note R) :=
  let (supervisor, notes) := b.supervisor.cancelPlan
  ({ b with supervisor }, notes)

def stop (b : Bench R) : Bench R := { b with supervisor := b.supervisor.stop }

def hear (b : Bench R) (p : Pose R) : Bench R × List (Note R) :=
  let (sampler, notes) := b.supervisor.sampler.update p
  ({ b with supervisor := { b.supervisor with sampler } }, notes)

def deliver (b : Bench R) (c : Command R) (t : Simulator.Readings R) : Outcome R (Bench R) Unit :=
  let (s, needed) := b.supervisor.wire c
  let b := { b with supervisor := s }
  if needed then
    let (b, reply, notes) := b.send c t
    match reply with
    | .raised why => .fail b why notes
    | _ =>
      let (s, more) := b.supervisor.record c
      .ok { b with supervisor := s } () (notes ++ more)
  else .ok b () []

def tickAt (b : Bench R) (plan : Instants R) (t : Simulator.Readings R) :
    Outcome R (Bench R) (Command R) :=
  (b.withSupervisor (b.supervisor.choose plan)).andThen fun b choice =>
    (b.deliver choice.command t).andThen fun b _ =>
      let (s, notes) := b.supervisor.settle choice.mode
      .ok { b with supervisor := s } choice.command notes

def tick (b : Bench R) (now : R) : Outcome R (Bench R) (Command R) :=
  b.tickAt (.frozen now) (.frozen now)

end Bench
end Quadruped
