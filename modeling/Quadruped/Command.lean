import Quadruped.Number.Scalar

/-!
What the robot is told: to take a posture, or to move with a velocity.
-/
namespace Quadruped

inductive Posture where
  | standUp
  | standDown
  | balanceStand
  | damp
  | recoveryStand
  | sit
  | riseSit
  | stop
deriving DecidableEq, Repr

namespace Posture

def all : List Posture :=
  [standUp, standDown, balanceStand, damp, recoveryStand, sit, riseSit, stop]

def name : Posture → String
  | standUp => "stand_up"
  | standDown => "stand_down"
  | balanceStand => "balance_stand"
  | damp => "damp"
  | recoveryStand => "recovery_stand"
  | sit => "sit"
  | riseSit => "rise_sit"
  | stop => "stop"

def ofName? (s : String) : Option Posture := all.find? (·.name == s)

/-- Postures that are sent once when they are entered, not on every tick. -/
def latches : Posture → Bool
  | sit => true
  | riseSit => true
  | _ => false

end Posture

/-- Forward and lateral speed in metres and turning rate in radians per second, left positive. -/
structure Velocity (R : Type) where
  forward : R
  lateral : R
  angular : R
deriving DecidableEq, Repr

inductive Axis where
  | forward
  | lateral
  | angular
deriving DecidableEq, Repr

inductive Command (R : Type) where
  | velocity (v : Velocity R)
  | posture (p : Posture)
deriving DecidableEq, Repr

variable {R : Type} [Scalar R]

namespace Velocity

def zero : Velocity R := ⟨0, 0, 0⟩

def isZero (v : Velocity R) : Bool :=
  Scalar.eq v.forward 0 && Scalar.eq v.lateral 0 && Scalar.eq v.angular 0

def firstBad? (v : Velocity R) : Option (Axis × R) :=
  [(Axis.forward, v.forward), (Axis.lateral, v.lateral), (Axis.angular, v.angular)].find?
    fun c => !Scalar.finite c.2

def same (v w : Velocity R) : Bool :=
  Scalar.eq v.forward w.forward && Scalar.eq v.lateral w.lateral && Scalar.eq v.angular w.angular

end Velocity

namespace Command

def stop : Command R := .posture .stop

def still : Command R := .velocity Velocity.zero

def isStop : Command R → Bool
  | .velocity v => v.isZero
  | .posture p => p == .stop

def same : Command R → Command R → Bool
  | .velocity v, .velocity w => v.same w
  | .posture p, .posture q => p == q
  | _, _ => false

end Command
end Quadruped
