import Quadruped.PointTurn

/-!
From the mode to exactly one command. Whatever is unknown or incomplete stops the robot.
-/
namespace Quadruped

structure Speeds (R : Type) where
  forward : R
  backward : R
  turn : R
  lateral : R
deriving DecidableEq, Repr

def Speeds.standard : Speeds Float := ⟨0.3, 0.3, 0.4, 0.4⟩

/-- The speeds, and which of the calls are rehearsed to fail, counted from one. -/
structure Dispatch (R : Type) where
  speeds : Speeds R
  breakdowns : List Nat
  calls : Nat
deriving DecidableEq, Repr

variable {R : Type} [Scalar R]

namespace Speeds

def velocity (s : Speeds R) : Direction → Option (Velocity R)
  | .forward => some ⟨s.forward, 0, 0⟩
  | .backward => some ⟨-s.backward, 0, 0⟩
  | .turnLeft => some ⟨0, 0, s.turn⟩
  | .turnRight => some ⟨0, 0, -s.turn⟩
  | .strafeLeft => some ⟨0, s.lateral, 0⟩
  | .strafeRight => some ⟨0, -s.lateral, 0⟩
  | .standUp | .standDown => none

def command (s : Speeds R) (d : Direction) : Command R :=
  match s.velocity d with
  | some v => .velocity v
  | none => .posture (if d = .standUp then .standUp else .standDown)

def checked (s : Speeds R) : Except (Fault R) (Speeds R) :=
  match (Direction.all.filterMap s.velocity).findSome? Velocity.firstBad? with
  | some (axis, value) => .error (.notFinite axis value)
  | none => .ok s

end Speeds

namespace Dispatch

def ofSpeeds (s : Speeds R) (breakdowns : List Nat) : Except (Fault R) (Dispatch R) :=
  s.checked.map fun s => ⟨s, breakdowns, 0⟩

def commandFor (s : Speeds R) (plan : Option (Command R)) (m : Mode) : Option (Command R) :=
  match m.kind with
  | .idle => some .stop
  | .autonomous => some (plan.getD .stop)
  | .teleop => m.direction.map s.command
  | .posture => m.posture.map .posture

def select (s : Speeds R) (plan : Option (Command R)) (selector : Selector) :
    Command R × List (Note R) :=
  match selector with
  | .mode m =>
    match commandFor s plan m with
    | some c => (c, [])
    | none => (.stop, [.unmapped selector])
  | _ => (.stop, [.unmapped selector])

def map (d : Dispatch R) (m : Mode) (plan : Option (Command R)) :
    Outcome R (Dispatch R) (Command R) :=
  let d := { d with calls := d.calls + 1 }
  if d.breakdowns.contains d.calls then .fail d (.breakdown .map) []
  else
    let (c, notes) := select d.speeds plan (.mode m)
    .ok d c notes

end Dispatch
end Quadruped
