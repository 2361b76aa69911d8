import Quadruped.Angle
import Quadruped.Outcome

/-!
A point turn at a fixed rate: towards the target by the shorter way until the heading is inside the
arrival window, then one stop, then nothing until the next turn begins.
-/
namespace Quadruped

structure PointTurn (R : Type) where
  speed : R
  tolerance : R
  target : R
  turning : Bool
deriving DecidableEq, Repr

def Velocity.checked {R : Type} [Scalar R] (v : Velocity R) : Except (Fault R) (Velocity R) :=
  match v.firstBad? with
  | some (axis, value) => .error (.notFinite axis value)
  | none => .ok v

namespace PointTurn

variable {R : Type} [Scalar R]

def ofRates (speed tolerance : R) : PointTurn R := ⟨speed, tolerance, 0, false⟩

def begin (t : PointTurn R) (target : R) : Outcome R (PointTurn R) Unit :=
  match Angle.normalize target with
  | none => .fail t .domain []
  | some h => .ok { t with target := h, turning := true } () [.turnStarted h]

/-- Left for a positive error, right for any other. -/
def rate (t : PointTurn R) (e : R) : R := if Scalar.lt 0 e then t.speed else -t.speed

def step (t : PointTurn R) (yaw : R) : Outcome R (PointTurn R) (Option (Command R)) :=
  if !t.turning then .ok t none []
  else
    match Angle.error yaw t.target with
    | none => .fail t .domain []
    | some e =>
      if Angle.inWindow t.tolerance e then
        .ok { t with turning := false } (some .stop) [.turnComplete yaw]
      else
        ⟨t, (Velocity.checked ⟨0, 0, t.rate e⟩).map fun v => some (.velocity v), [.turning e]⟩

end PointTurn
end Quadruped
