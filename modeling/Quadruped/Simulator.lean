import Quadruped.Angle
import Quadruped.History
import Quadruped.Outcome
import Quadruped.Pose

/-!
A simulated robot: it integrates the velocity it was last given into a planar pose, counts the commands
it accepted and keeps the newest of them, and publishes a pose after each.
-/
namespace Quadruped

open Scalar

structure Simulator (R : Type) where
  connected : Bool
  x : R
  y : R
  z : R
  yaw : R
  /-- A constant disturbance of the heading, in radians per second. -/
  drift : R
  publishOnConnect : Bool
  velocity : Velocity R
  posture : Option Posture
  lastTime : Option R
  history : History (Command R)
  commandCount : Nat
deriving DecidableEq, Repr

namespace Simulator

variable {R : Type} [Scalar R]

structure Setup (R : Type) where
  start : Pose R
  drift : R
  publishOnConnect : Bool
  historySize : Int
deriving DecidableEq, Repr

def Setup.standard : Setup R := ⟨⟨0, 0, 0, 0, 0⟩, 0, true, 1000⟩

def create (s : Setup R) : Except (Fault R) (Simulator R) :=
  match Angle.normalize s.start.yaw with
  | none => .error .domain
  | some yaw =>
    if s.historySize < 0 then .error .negativeHistory
    else .ok {
      connected := false, x := s.start.x, y := s.start.y, z := s.start.z, yaw
      drift := s.drift, publishOnConnect := s.publishOnConnect
      velocity := .zero, posture := none, lastTime := none
      history := .empty s.historySize.toNat, commandCount := 0 }

def pose (s : Simulator R) (now : R) : Pose R := ⟨s.x, s.y, s.z, s.yaw, now⟩

def commands (s : Simulator R) : List (Command R) := s.history.toList

def lastCommand? (s : Simulator R) : Option (Command R) := s.history.last?

/-- Moves on by `dt`. The position has moved even where the new heading has no meaning. -/
def advance (s : Simulator R) (dt : R) : Outcome R (Simulator R) Unit :=
  let v := s.velocity
  let c := cos s.yaw
  let d := sin s.yaw
  let moved := { s with
    x := s.x + (v.forward * c - v.lateral * d) * dt
    y := s.y + (v.forward * d + v.lateral * c) * dt }
  match Angle.normalize (s.yaw + (v.angular + s.drift) * dt) with
  | none => .fail moved .domain []
  | some yaw => .ok { moved with yaw } () []

/-- Moves on to the given time; a clock that went back moves nothing. -/
def integrate (s : Simulator R) (now : R) : Outcome R (Simulator R) Unit :=
  match s.lastTime with
  | none => .ok { s with lastTime := some now } () []
  | some t =>
    (s.advance (larger 0 (now - t))).andThen fun s _ => .ok { s with lastTime := some now } () []

/-- The times that one request reads off the clock: how far the robot has moved on, and when its pose is
published. -/
structure Readings (R : Type) where
  moved : R
  published : R
deriving DecidableEq, Repr

def Readings.frozen (now : R) : Readings R := ⟨now, now⟩

instance : Coe R (Readings R) := ⟨.frozen⟩

def connect (s : Simulator R) (interface : String) (t : Readings R) :
    Outcome R (Simulator R) (Option (Pose R)) :=
  let s := { s with connected := true, lastTime := some t.moved }
  .ok s (if s.publishOnConnect then some (s.pose t.published) else none)
    [.simConnecting interface]

def disconnect (s : Simulator R) : Outcome R (Simulator R) Unit :=
  .ok { s with connected := false, velocity := .zero } () [.simDisconnecting]

/-- A posture halts the robot; a velocity replaces the one before. -/
def apply (s : Simulator R) (c : Command R) : Simulator R :=
  let s := { s with history := s.history.push c, commandCount := s.commandCount + 1 }
  match c with
  | .velocity v => { s with velocity := v }
  | .posture p => { s with velocity := .zero, posture := some p }

def noteOf : Command R → Note R
  | .velocity v => .simMove v
  | .posture p => .simPosture p

def droppedNote : Command R → Note R
  | .velocity _ => .simVelocityDropped
  | .posture _ => .simPostureDropped

def send (s : Simulator R) (c : Command R) (t : Readings R) :
    Outcome R (Simulator R) (Option (Pose R)) :=
  if s.connected then
    (s.integrate t.moved).andThen fun s _ =>
      let s := s.apply c
      .ok s (some (s.pose t.published)) [noteOf c]
  else .ok s none [droppedNote c]

def step (s : Simulator R) (dt now : R) : Outcome R (Simulator R) (Option (Pose R)) :=
  (s.advance dt).andThen fun s _ => .ok s (some (s.pose now)) []

end Simulator
end Quadruped
