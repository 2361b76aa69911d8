import Quadruped.Number.Reading
import Quadruped.Number.Places
import Quadruped.Number.Shortest
import Quadruped.Settings.File
import Quadruped.Supervisor.Basic
import Quadruped.Text.Lower
import Quadruped.Text.Quoted

/-!
The settings that the environment holds. Each is read with a default for one that is unset or empty,
and all are checked together, so that every bad one is named.
-/
namespace Quadruped

open Number Text

inductive SettingFault where
  | notNumber (name raw : String)
  | notInteger (name raw : String)
  | notPositive (name : String) (value : Float)
  | negative (name : String) (value : Float)
  | negativeCount (name : String) (value : Int)
  | unknownSource (name source : String)
deriving Repr

def SettingFault.message : SettingFault → String
  | notNumber n raw => s!"{n} must be a number, got {quoted raw.toList}"
  | notInteger n raw => s!"{n} must be an integer, got {quoted raw.toList}"
  | notPositive n v => s!"{n} must be positive, got {text v}"
  | negative n v => s!"{n} must be >= 0, got {text v}"
  | negativeCount n v => s!"{n} must be >= 0, got {v}"
  | unknownSource n s => s!"{n} must be one of elapsed, pose, got {quoted s.toList}"

namespace Settings

/-- The text of a setting, unless it is unset or empty. -/
def given? (e : Environment) (name : String) : Option String :=
  (e.get? name).filter (· != "")

def number (e : Environment) (name : String) (default : Float) : Except SettingFault Float :=
  match given? e name with
  | none => .ok default
  | some raw =>
    match readFloat? raw.toList with
    | some v => .ok v
    | none => .error (.notNumber name raw)

def integer (e : Environment) (name : String) (default : Int) : Except SettingFault Int :=
  match given? e name with
  | none => .ok default
  | some raw =>
    match readInt? raw.toList with
    | some v => .ok v
    | none => .error (.notInteger name raw)

inductive Rate where
  | controlPeriod
  | turnSpeed
  | turnTolerance
  | travelSpeed
  | headingGain
  | headingLimit
  | feedbackTimeout
deriving DecidableEq, Repr

namespace Rate

def all : List Rate :=
  [controlPeriod, turnSpeed, turnTolerance, travelSpeed, headingGain, headingLimit, feedbackTimeout]

def name : Rate → String
  | controlPeriod => "GO2_CONTROL_PERIOD"
  | turnSpeed => "GO2_TURN_SPEED"
  | turnTolerance => "GO2_TURN_TOLERANCE"
  | travelSpeed => "GO2_TRAVEL_SPEED"
  | headingGain => "GO2_HEADING_GAIN"
  | headingLimit => "GO2_HEADING_LIMIT"
  | feedbackTimeout => "GO2_FEEDBACK_TIMEOUT"

def default : Rate → Float
  | controlPeriod => Timing.standard.controlPeriod
  | turnSpeed => Gains.standard.turnSpeed
  | turnTolerance => Gains.standard.turnTolerance
  | travelSpeed => Gains.standard.travelSpeed
  | headingGain => Gains.standard.headingGain
  | headingLimit => Gains.standard.headingLimit
  | feedbackTimeout => Timing.standard.feedbackTimeout

def read (e : Environment) (r : Rate) : Except SettingFault Float := number e r.name r.default

def check (e : Environment) (r : Rate) : Option SettingFault :=
  match r.read e with
  | .error why => some why
  | .ok v => if 0 < v then none else some (.notPositive r.name v)

end Rate

def interfaceName : String := "GO2_NETWORK_INTERFACE"
def pauseName : String := "GO2_SEGMENT_PAUSE"
def repeatsName : String := "GO2_STARTUP_REPEATS"
def sourceName : String := "GO2_DISTANCE_SOURCE"

def names : List String :=
  Rate.all.map Rate.name ++ [interfaceName, pauseName, repeatsName, sourceName]

def interface? (e : Environment) : Option String := given? e interfaceName

def segmentPause (e : Environment) : Except SettingFault Float :=
  number e pauseName Gains.standard.segmentPause

def startupRepeats (e : Environment) : Except SettingFault Int :=
  integer e repeatsName Timing.standard.startupRepeats

/-- Only an unset source has a default. -/
def sourceText (e : Environment) : String :=
  String.ofList (lower (strip ((e.get? sourceName).getD DistanceSource.elapsed.name).toList))

def checkPause (e : Environment) : Option SettingFault :=
  match segmentPause e with
  | .error why => some why
  | .ok v => if v < 0 then some (.negative pauseName v) else none

def checkRepeats (e : Environment) : Option SettingFault :=
  match startupRepeats e with
  | .error why => some why
  | .ok n => if n < 0 then some (.negativeCount repeatsName n) else none

def checkSource (e : Environment) : Option SettingFault :=
  match DistanceSource.ofName? (sourceText e) with
  | some _ => none
  | none => some (.unknownSource sourceName (sourceText e))

/-- What is wrong, one fault for each bad setting. -/
def faults (e : Environment) : List SettingFault :=
  Rate.all.filterMap (·.check e) ++
    [checkPause e, checkRepeats e, checkSource e].filterMap id

def value {α : Type} (fallback : α) : Except SettingFault α → α
  | .ok v => v
  | .error _ => fallback

def rate (e : Environment) (r : Rate) : Float := value r.default (r.read e)

def gains (e : Environment) : Except (List SettingFault) (Gains Float × String) :=
  match faults e with
  | [] => .ok ({
      turnSpeed := rate e .turnSpeed
      turnTolerance := rate e .turnTolerance
      travelSpeed := rate e .travelSpeed
      headingGain := rate e .headingGain
      headingLimit := rate e .headingLimit
      segmentPause := value Gains.standard.segmentPause (segmentPause e) }, sourceText e)
  | bad => .error bad

def timing (e : Environment) : Except (List SettingFault) (Timing Float) :=
  match faults e with
  | [] => .ok { Timing.standard with
      controlPeriod := rate e .controlPeriod
      feedbackTimeout := rate e .feedbackTimeout
      startupRepeats := value Timing.standard.startupRepeats (startupRepeats e) }
  | bad => .error bad

def messages (bad : List SettingFault) : String :=
  String.intercalate "; " (bad.map SettingFault.message)

def defaultFile : String := ".env"

structure Opened where
  environment : Environment
  found : Bool
  unreadable : List Nat
deriving DecidableEq, Repr

/-- The environment with the file of settings at the path, if there is one. A directory counts as one
that holds nothing. -/
def openAt (e : Environment) (path : String) : Except EnvironmentFault Opened := do
  match ← e.locate path with
  | .file text => .ok ⟨← File.load e text, true, File.unreadableLines text⟩
  | .directory => .ok ⟨e, true, []⟩
  | _ => .ok ⟨e, false, []⟩

def statusLines (e : Environment) (loaded : Bool) : List String :=
  [ "Go2 Configuration Status:",
    "  .env loaded:      " ++ (if loaded then "Yes" else "No"),
    "  Interface:        " ++ (interface? e).getD "(not set)" ] ++
  match faults e with
  | [] => [
    s!"  Control period:   {fixed 1 (rate e .controlPeriod * 1000)} ms",
    s!"  Turn speed:       {text (rate e .turnSpeed)} rad/s " ++
      s!"(tolerance {text (rate e .turnTolerance)} rad)",
    s!"  Travel speed:     {text (rate e .travelSpeed)} m/s",
    s!"  Heading gain:     {text (rate e .headingGain)} " ++
      s!"(limit {text (rate e .headingLimit)} rad/s)",
    s!"  Distance source:  {sourceText e}",
    s!"  Segment pause:    {text (value 0 (segmentPause e))}s",
    s!"  Feedback timeout: {text (rate e .feedbackTimeout)}s",
    s!"  Startup repeats:  {value 0 (startupRepeats e)}",
    "",
    "  Status: Configuration is valid"]
  | bad => "" :: "  Status: Configuration has errors:" :: bad.map fun f => "    - " ++ f.message

end Settings
end Quadruped
