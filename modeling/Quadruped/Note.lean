import Quadruped.Fault
import Quadruped.Mode

/-!
The log: what the parts of the program have to say, each note with a level and a source. A note
holds what it tells; only its text rounds numbers.
-/
namespace Quadruped

inductive Level where
  | debug
  | info
  | warning
  | error
  | critical
deriving DecidableEq, Repr

namespace Level

def name : Level → String
  | debug => "DEBUG"
  | info => "INFO"
  | warning => "WARNING"
  | error => "ERROR"
  | critical => "CRITICAL"

def ofName? (s : String) : Option Level :=
  match s with
  | "NOTSET" => some debug
  | "WARN" => some warning
  | "FATAL" => some critical
  | _ => [debug, info, warning, error, critical].find? (·.name == s)

def rank : Level → Nat
  | debug => 0
  | info => 1
  | warning => 2
  | error => 3
  | critical => 4

end Level

/-- What may be given to the dispatch table in place of a mode. -/
inductive Selector where
  | mode (m : Mode)
  | nothing
  | foreign (text : String)
deriving DecidableEq, Repr

inductive Note (R : Type) where
  | turnStarted (target : R)
  | turnComplete (yaw : R)
  | turning (error : R)
  | travelling (distance bias : R)
  | planBuilt (count : Nat) (name : String)
  | planStarted (count : Nat)
  | planCancelled (segment : Nat)
  | awaitingPose
  | travelStarted (distance : R)
  | travelComplete (distance : R)
  | planComplete (count : Nat)
  | firstPose (yaw : R)
  | unmapped (selector : Selector)
  | lagging (late : R) (frame : Nat)
  | modeChanged (old new : Mode)
  | starting
  | stopping
  | connecting (interface : String)
  | connected
  | connectionFailed (interface : String)
  | startup (posture : Posture) (count : Int)
  | startupComplete
  | statusChanged (old new : Status)
  | callbackFailed (why : Fault R)
  | tickFailed (why : Fault R)
  | failsafe (why : Fault R)
  | failsafeStopFailed (why : Fault R)
  | cleanupFailed (why : Fault R)
  | commanded (c : Command R)
  | planFinished
  | simConnecting (interface : String)
  | simDisconnecting
  | simMove (v : Velocity R)
  | simPosture (p : Posture)
  | simVelocityDropped
  | simPostureDropped
  | linkFailed (interface : String) (why : Fault R)
  | callDropped (call : String)
  | keyIgnored (key : String)
  | exitRequested
  | scriptStarted (keys : Nat)
  | scriptStopped
  | scriptLoaded (name : String) (keys : Nat)
  | scriptUnknown (name : String)
  | gamepadStarting
  | controllersFound (count : Int)
  | controllerSelected (name : String)
  | controllerShape (axes buttons hats : Nat)
  | gamepadStopping
  | gamepadToken (token : String)
  | keyboardStarted
  | keyboardStopped
  | unreadableSetting (line : Nat)
  | notStarted (status : Status)
  | noFeedback (why : Fault R)
  | demoRule
  | demoTitle (plan : String)
  | demoStatus (old new : Status)
  | demoTurn (index : Nat) (heading : R)
  | demoTravel (index : Nat) (distance : R)
  | demoResult (finished : Bool) (ticks : Nat) (x y yaw : R)
  | demoSent (count : Nat)
  | demoInterrupted
deriving DecidableEq, Repr

namespace Note

variable {R : Type}

def level : Note R → Level
  | turning _ | travelling .. | awaitingPose | commanded _ | simMove _ | simPosture _
  | keyIgnored _ | gamepadToken _ => .debug
  | unmapped _ | lagging .. | simVelocityDropped | simPostureDropped | callDropped _
  | scriptUnknown _ | unreadableSetting _ => .warning
  | connectionFailed _ | callbackFailed _ | tickFailed _ | failsafeStopFailed _ | cleanupFailed _
  | linkFailed .. | notStarted _ | noFeedback _ => .error
  | failsafe _ => .critical
  | _ => .info

def source : Note R → String
  | turnStarted _ | turnComplete _ | turning _ => "motion_core.heading"
  | travelling .. => "motion_core.straight"
  | planBuilt .. => "motion_core.plans"
  | planStarted _ | planCancelled _ | awaitingPose | travelStarted _ | travelComplete _
  | planComplete _ => "motion_core.sequencer"
  | firstPose _ => "motion_core.feedback"
  | unmapped _ => "motion_core.mapper"
  | lagging .. => "motion_core.realtime"
  | modeChanged .. | starting | stopping | connecting _ | connected | connectionFailed _
  | startup .. | startupComplete | statusChanged .. | callbackFailed _ | tickFailed _ | failsafe _
  | failsafeStopFailed _ | cleanupFailed _ | commanded _ | planFinished => "motion_core.supervisor"
  | simConnecting _ | simDisconnecting | simMove _ | simPosture _ | simVelocityDropped
  | simPostureDropped => "motion_core.transport"
  | linkFailed .. | callDropped _ => "motion_core.transport.unitree"
  | keyIgnored _ | exitRequested => "teleop.reader"
  | scriptStarted _ | scriptStopped | scriptLoaded .. | scriptUnknown _ => "teleop.mock_input"
  | gamepadStarting | controllersFound _ | controllerSelected _ | controllerShape ..
  | gamepadStopping | gamepadToken _ => "teleop.gamepad_input"
  | keyboardStarted | keyboardStopped => "teleop.keyboard_input"
  | unreadableSetting _ => "dotenv.main"
  | notStarted _ | noFeedback _ => "launch"
  | demoRule | demoTitle _ | demoStatus .. | demoTurn .. | demoTravel .. | demoResult ..
  | demoSent _ | demoInterrupted => "demo_nav"

end Note
end Quadruped
