import Quadruped.Mode
import Quadruped.Text.Lower

/-!
What the operator's keys do.
-/
namespace Quadruped

inductive KeyAction where
  | select (m : Mode)
  | help
  | exit
deriving DecidableEq, Repr

structure KeyBinding where
  action : KeyAction
  feedback : String
deriving DecidableEq, Repr

namespace KeyBinding

def all : List (String × KeyBinding) := [
  ("w", ⟨.select (.teleop .forward), "Moving forward"⟩),
  ("s", ⟨.select (.teleop .backward), "Moving backward"⟩),
  ("a", ⟨.select (.teleop .turnLeft), "Turning left"⟩),
  ("d", ⟨.select (.teleop .turnRight), "Turning right"⟩),
  ("q", ⟨.select (.teleop .strafeLeft), "Strafing left"⟩),
  ("e", ⟨.select (.teleop .strafeRight), "Strafing right"⟩),
  ("r", ⟨.select (.teleop .standUp), "Standing up"⟩),
  ("f", ⟨.select (.teleop .standDown), "Standing down"⟩),
  (" ", ⟨.select .idle, "Stopped"⟩),
  ("h", ⟨.help, ""⟩),
  ("\x1b", ⟨.exit, "Exiting..."⟩)]

/-- A key of one character is looked up in its small form. -/
def folded (key : String) : String :=
  match key.toList with
  | [c] => String.ofList (Text.lower [c])
  | _ => key

def lookup (key : String) : Option KeyBinding :=
  (all.find? (·.1 == folded key)).map (·.2)

end KeyBinding

def KeyAction.name : KeyAction → String
  | select _ => "set_mode"
  | help => "help"
  | exit => "exit"

def KeyAction.mode? : KeyAction → Option Mode
  | select m => some m
  | _ => none

def helpText : String := "
Go2 keyboard control
  w / s   forward / backward
  a / d   turn left / right
  q / e   strafe left / right
  r / f   stand up / stand down
  space   stop
  h       show this help
  ESC     exit
"

end Quadruped
