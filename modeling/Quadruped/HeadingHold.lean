import Quadruped.Angle
import Quadruped.Outcome
import Quadruped.PointTurn

/-!
Straight travel: a fixed speed, with a turning rate that holds the heading. The distance is the one
measured, or else speed times time.
-/
namespace Quadruped.HeadingHold

open Scalar

variable {R : Type} [Scalar R]

def estimate (speed elapsed : R) : R := speed * larger 0 elapsed

structure Reading (R : Type) where
  command : Command R
  distance : R
deriving DecidableEq, Repr

def step (gain limit elapsed speed yaw target : R) (measured : Option R) :
    Except (Fault R) (Reading R) × List (Note R) :=
  match Angle.correction yaw target gain limit with
  | none => (.error .domain, [])
  | some bias =>
    let distance := measured.getD (estimate speed elapsed)
    ((Velocity.checked ⟨speed, 0, bias⟩).map fun v => ⟨.velocity v, distance⟩,
      [.travelling distance bias])

end Quadruped.HeadingHold
