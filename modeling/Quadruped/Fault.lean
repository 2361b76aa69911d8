import Quadruped.Command
import Quadruped.Number.Places
import Quadruped.Number.Shortest
import Quadruped.Settings.Environment
import Quadruped.Text.Quoted

/-!
What can go wrong, as causes. The wording of each is in one place, `Fault.message`.
-/
namespace Quadruped

inductive PlanFault (R : Type) where
  | empty
  | badStep (token : String)
  | badNumber (token : String)
  | stepNotFinite (token : String)
  | stepNotPositive (token : String)
  | unknownKind (kind token : String)
  | turnNotFinite (index : Nat)
  | travelNotPositive (index : Nat) (distance : R)
  | unknownSegment (index : Nat) (text : String)
deriving DecidableEq, Repr

/-- Parts that a rehearsal can make fail. -/
inductive Part where
  | send
  | map
  | connect
  | disconnect
  | callback
deriving DecidableEq, Repr

/-- What a program cannot go on without, when an option for it was left without a value. -/
inductive Missing where
  | level
  | settingsFile
  | plan
  | posture
  | duration
  | mission
deriving DecidableEq, Repr

inductive Fault (R : Type) where
  /-- An infinite angle has no heading. -/
  | domain
  | notFinite (axis : Axis) (value : R)
  | plan (why : PlanFault R)
  | planRunning
  | noSegment
  | unknownSource (name : String)
  | negativePause (pause : R)
  | periodNotPositive
  | negativeHistory
  | noPose
  | noPoseWithin (timeout : R)
  | timedOut
  | breakdown (part : Part)
  | callFailed (call : String)
  | shortReading
  | noSportLibrary
  | noGamepadLibrary
  | noController
  | noTerminal
  | missing (what : Missing)
  | environment (why : EnvironmentFault)
deriving DecidableEq, Repr

def Part.name : Part → String
  | send => "send"
  | map => "map"
  | connect => "connect"
  | disconnect => "disconnect"
  | callback => "callback"

def Axis.name : Axis → String
  | forward => "forward"
  | lateral => "lateral"
  | angular => "angular"

open Number Text

private def inQuotes (s : String) : String := quoted s.toList

def PlanFault.message : PlanFault Float → String
  | empty => "Plan is empty"
  | badStep t => s!"Bad plan step {inQuotes t}"
  | badNumber t => s!"Bad number in plan step {inQuotes t}"
  | stepNotFinite t => s!"Plan step {inQuotes t} is not finite"
  | stepNotPositive t => s!"Travel distance must be positive in {inQuotes t}"
  | unknownKind k t => s!"Unknown plan step kind {inQuotes k} in {inQuotes t}"
  | turnNotFinite i => s!"Segment {i}: turn heading is not finite"
  | travelNotPositive i d => s!"Segment {i}: travel distance must be positive, got {text d}"
  | unknownSegment i t => s!"Segment {i}: unknown segment {inQuotes t}"

def Missing.message : Missing → String
  | level => "'list' object has no attribute 'upper'"
  | settingsFile => "expected str, bytes or os.PathLike object, not list"
  | plan | posture => "'list' object has no attribute 'strip'"
  | duration => "'<=' not supported between instances of 'list' and 'int'"
  | mission => "'NoneType' object has no attribute 'value'"

def Fault.message : Fault Float → String
  | domain => "math domain error"
  | notFinite axis v => s!"{axis.name} not finite: {text v}"
  | plan why => why.message
  | planRunning => "A plan is already running, cancel it first"
  | noSegment => "deque index out of range"
  | unknownSource s => s!"distance_source must be one of ('elapsed', 'pose'), got {inQuotes s}"
  | negativePause p => s!"segment_pause must be >= 0, got {text p}"
  | periodNotPositive => "period must be positive"
  | negativeHistory => "maxlen must be non-negative"
  | noPose => "No pose sample received yet"
  | noPoseWithin t => s!"No pose sample within {fixed 1 t}s"
  | timedOut => ""
  | breakdown part => part.name ++ " fault"
  | callFailed call => call ++ " failed"
  | shortReading => "list index out of range"
  | noSportLibrary =>
    "unitree_sdk2py not installed. Install with: pip install go2-motion[unitree]"
  | noGamepadLibrary => "pygame not installed. Install with: pip install go2-motion[gamepad]"
  | noController => "No game controllers found"
  | noTerminal => "Keyboard input needs an interactive terminal (stdin is not a TTY)"
  | missing what => what.message
  | environment why => why.message

end Quadruped
