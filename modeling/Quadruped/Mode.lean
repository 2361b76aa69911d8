import Quadruped.Command

/-!
The mode selects what drives the robot; the status says where a supervisor stands in its life.
-/
namespace Quadruped

inductive Direction where
  | forward
  | backward
  | turnLeft
  | turnRight
  | strafeLeft
  | strafeRight
  | standUp
  | standDown
deriving DecidableEq, Repr

namespace Direction

def all : List Direction :=
  [forward, backward, turnLeft, turnRight, strafeLeft, strafeRight, standUp, standDown]

def name : Direction → String
  | forward => "forward"
  | backward => "backward"
  | turnLeft => "turn_left"
  | turnRight => "turn_right"
  | strafeLeft => "strafe_left"
  | strafeRight => "strafe_right"
  | standUp => "stand_up"
  | standDown => "stand_down"

def ofName? (s : String) : Option Direction := all.find? (·.name == s)

end Direction

inductive ModeKind where
  | idle
  | autonomous
  | teleop
  | posture
deriving DecidableEq, Repr

namespace ModeKind

def name : ModeKind → String
  | idle => "idle"
  | autonomous => "autonomous"
  | teleop => "teleop"
  | posture => "posture"

def ofName? (s : String) : Option ModeKind :=
  [idle, autonomous, teleop, posture].find? (·.name == s)

end ModeKind

/-- A mode may carry more or less than its kind needs; the dispatch table stops the robot for one
that lacks something. -/
structure Mode where
  kind : ModeKind
  direction : Option Direction
  posture : Option Posture
deriving DecidableEq, Repr

namespace Mode

def idle : Mode := ⟨.idle, none, none⟩
def autonomous : Mode := ⟨.autonomous, none, none⟩
def teleop (d : Direction) : Mode := ⟨.teleop, some d, none⟩
def holding (p : Posture) : Mode := ⟨.posture, none, some p⟩

def text (m : Mode) : String :=
  match m.kind, m.direction, m.posture with
  | .teleop, some d, _ => "teleop:" ++ d.name
  | .posture, _, some p => "posture:" ++ p.name
  | k, _, _ => k.name

end Mode

inductive Status where
  | disconnected
  | starting
  | active
  | failsafe
  | stopped
deriving DecidableEq, Repr

def Status.name : Status → String
  | disconnected => "disconnected"
  | starting => "starting"
  | active => "active"
  | failsafe => "failsafe"
  | stopped => "stopped"

end Quadruped
