import Quadruped.Audience
import Quadruped.Simulator

/-!
A simulated robot before an audience: every pose that it publishes reaches all who listen.
-/
namespace Quadruped

structure Stage (R : Type) where
  simulator : Simulator R
  audience : Audience R
deriving DecidableEq, Repr

namespace Stage

variable {R : Type} [Scalar R]

def ofSimulator (s : Simulator R) : Stage R := ⟨s, ⟨[]⟩⟩

def subscribe (s : Stage R) : Stage R := { s with audience := s.audience.subscribe }

/-- What the robot published is heard; a robot that failed published nothing. -/
def publish (s : Stage R) (o : Outcome R (Simulator R) (Option (Pose R))) :
    Outcome R (Stage R) (Option (Pose R)) :=
  (o.within fun simulator => { s with simulator }).andThen fun s p =>
    .ok { s with audience := s.audience.hear p } p []

def connect (s : Stage R) (interface : String) (t : Simulator.Readings R) :
    Outcome R (Stage R) (Option (Pose R)) :=
  s.publish (s.simulator.connect interface t)

def send (s : Stage R) (c : Command R) (t : Simulator.Readings R) :
    Outcome R (Stage R) (Option (Pose R)) :=
  s.publish (s.simulator.send c t)

def step (s : Stage R) (dt now : R) : Outcome R (Stage R) (Option (Pose R)) :=
  s.publish (s.simulator.step dt now)

def disconnect (s : Stage R) : Outcome R (Stage R) Unit :=
  s.simulator.disconnect.within fun simulator => { s with simulator }

end Stage
end Quadruped
