import Quadruped.Note
import Quadruped.Number.Double
import Quadruped.Plan.Segment

/-!
The wording of the log, and the descriptions of commands, modes and segments that occur in it.
-/
namespace Quadruped

open Number Text

def Posture.describe (p : Posture) : String := "PostureCommand." ++ p.name.toUpper

def Velocity.describe (v : Velocity Float) : String :=
  s!"VelocityCommand(forward={text v.forward}, lateral={text v.lateral}, angular={text v.angular})"

def Command.describe : Command Float → String
  | .velocity v => v.describe
  | .posture p => p.describe

def describeChoice (kind : String) : Option String → String
  | some name => s!"<{kind}.{name.toUpper}: '{name}'>"
  | none => "None"

def Mode.describe (m : Mode) : String :=
  "Mode(kind=" ++ describeChoice "ModeKind" m.kind.name
    ++ ", direction=" ++ describeChoice "TeleopDirection" (m.direction.map Direction.name)
    ++ ", posture_kind=" ++ describeChoice "PostureCommand" (m.posture.map Posture.name) ++ ")"

def Selector.text : Selector → String
  | .mode m => m.text
  | .nothing => "None"
  | .foreign s => s

def Selector.describe : Selector → String
  | .mode m => m.describe
  | .nothing => "None"
  | .foreign s => quoted s.toList

def Segment.describe : Segment Float → String
  | .turn h => s!"Turn(target_heading={text h})"
  | .travel d => s!"Travel(distance={text d})"

def inDegrees (angle : Float) : String := signedFixed 1 (degrees angle) ++ " deg"

def listed (index : Nat) : String := (if index < 10 then "   " else "  ") ++ s!"{index}. "

def Note.text : Note Float → String
  | turnStarted h => "Turn started: target=" ++ inDegrees h
  | turnComplete y => "Turn complete: yaw=" ++ inDegrees y
  | turning e => s!"Turning: {inDegrees e} to go"
  | travelling d b => s!"Travel: {fixed 2 d} m, heading bias {signedFixed 3 b} rad/s"
  | planBuilt n name => s!"Plan built: {n} segment(s) from {quoted name.toList}"
  | planStarted n => s!"Plan started: {n} segment(s)"
  | planCancelled i => s!"Plan cancelled at segment {i}"
  | awaitingPose => "Waiting for first pose sample"
  | travelStarted d => s!"Travel started: {fixed 2 d} m"
  | travelComplete d => s!"Travel complete: {fixed 2 d} m"
  | planComplete n => s!"Plan complete: {n} segment(s)"
  | firstPose y => s!"First pose sample: yaw={signedFixed 3 y} rad"
  | unmapped s => s!"Unmapped mode {s.describe}, sending stop"
  | lagging late n => s!"Control tick lagging by {fixed 1 (late * 1000)} ms (frame {n})"
  | modeChanged old new => s!"Mode: {old.text} -> {new.text}"
  | starting => "Supervisor starting"
  | stopping => "Supervisor stopping"
  | connecting i => "Connecting via " ++ i
  | connected => "Connected successfully"
  | connectionFailed i => s!"Connection via {i} failed"
  | startup p n => s!"Startup: {p.name} x{n}"
  | startupComplete => "Startup complete, ready to move"
  | statusChanged old new => s!"State transition: {old.name} -> {new.name}"
  | callbackFailed why => "Error in state callback: " ++ why.message
  | tickFailed why => "Error in control tick: " ++ why.message
  | failsafe why => "Entering FAILSAFE: Tick error: " ++ why.message
  | failsafeStopFailed why => "Failed to send failsafe stop: " ++ why.message
  | cleanupFailed why => "Error during cleanup: " ++ why.message
  | commanded c => "Command: " ++ c.describe
  | planFinished => "Plan finished, mode -> idle"
  | simConnecting i => "[SIM] Connecting via " ++ i
  | simDisconnecting => "[SIM] Disconnecting"
  | simMove v =>
    s!"[SIM] Move vx={signedFixed 2 v.forward} vy={signedFixed 2 v.lateral} " ++
      s!"wz={signedFixed 2 v.angular}"
  | simPosture p => "[SIM] Posture " ++ p.name
  | simVelocityDropped => "[SIM] Cannot send velocity - not connected"
  | simPostureDropped => "[SIM] Cannot send posture - not connected"
  | linkFailed i why => s!"Unitree connection failed on {i}: {why.message}"
  | callDropped c => s!"Cannot call {c} - not connected"
  | keyIgnored k => "Ignoring key " ++ quoted k.toList
  | exitRequested => "Exit requested from input"
  | scriptStarted n => s!"[MOCK INPUT] Started - Script mode ({n} keys)"
  | scriptStopped => "[MOCK INPUT] Stopped"
  | scriptLoaded name n => s!"Loaded script '{name}' with {n} keys"
  | scriptUnknown name => s!"Unknown script '{name}'"
  | gamepadStarting => "Initializing gamepad input..."
  | controllersFound n => s!"Found {n} game controller(s)"
  | controllerSelected name => "Selected: " ++ name
  | controllerShape a b h => s!"Axes: {a}, Buttons: {b}, Hats: {h}"
  | gamepadStopping => "Stopping gamepad input"
  | gamepadToken t => "Gamepad -> " ++ quoted t.toList
  | keyboardStarted => "Keyboard input started"
  | keyboardStopped => "Keyboard input stopped, terminal restored"
  | unreadableSetting n => s!"python-dotenv could not parse statement starting at line {n}"
  | notStarted s => s!"Supervisor did not start (state: {s.name})"
  | noFeedback why => "Pose feedback not received: " ++ why.message
  | demoRule => String.ofList (List.replicate 60 '=')
  | demoTitle plan => "go2-motion Navigation Demo: " ++ plan
  | demoStatus old new => s!"STATE CHANGE: {old.name} -> {new.name}"
  | demoTurn i h => listed i ++ (Segment.turn h).describe
  | demoTravel i d => listed i ++ (Segment.travel d).describe
  | demoResult finished ticks x y yaw =>
    "Plan " ++ (if finished then "completed" else "cancelled") ++ s!" after {ticks} ticks: " ++
      s!"x={signedFixed 2 x} m, y={signedFixed 2 y} m, yaw={signedFixed 3 yaw} rad"
  | demoSent n => s!"Commands sent: {n}"
  | demoInterrupted => "Demo interrupted"

end Quadruped
