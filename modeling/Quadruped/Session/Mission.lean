import Quadruped.Plan.Reading
import Quadruped.Session.House

/-!
A mission with the supervisor: to run a plan, to follow the operator's keys, or to hold a posture.
The supervisor is started first; however a mission that has begun ends, it is stopped and awaited.
-/
namespace Quadruped

open Schedule Number

inductive Mission.Stay where
  | untilStopped
  | lasting (duration : Float)
  /-- For a time that was left out. -/
  | unclear

inductive Mission where
  | plan (route : String)
  | teleop (source : KeySource Float)
  | hold (p : Posture) (stay : Mission.Stay)
  /-- To do what was left out. -/
  | unnamed

namespace Mission

inductive Result where
  | code (n : Nat)
  | failed (why : Fault Float)
  | cancelled
deriving Repr

def Result.ending : Result → Ending Float
  | code _ => .returned
  | failed why => .raised why
  | cancelled => .cancelled

inductive Activity where
  | opening
  | opened
  | rising
  /-- The run is over before the supervisor was active. -/
  | notRisen
  | seeking (w : Sampler.Wait Float)
  | driving
  | reading (session : ReadingSession Float)
  | holding
  | closing (r : Result)
  | over (r : Result)

structure State where
  interface : String
  mission : Mission
  activity : Activity
  runTask : Nat

def State.ofMission (interface : String) (m : Mission) : State := ⟨interface, m, .opening, 0⟩

abbrev Turn := House × State × Next State

def finish (h : House) (s : State) (r : Result) : Turn :=
  (h, { s with activity := .over r }, .finish r.ending)

def close (h : House) (s : State) (r : Result) : Turn :=
  (h.stop, { s with activity := .closing r }, .join s.runTask)

def initialLine (yaw : Float) : String := s!"Initial yaw: {signedFixed 3 yaw} rad"

def finalLine (p : Pose Float) : String :=
  s!"Final pose: x={signedFixed 2 p.x} y={signedFixed 2 p.y} yaw={signedFixed 3 p.yaw}"

def cancelledLine (completed : Nat) : String :=
  s!"Plan cancelled ({completed} segment(s) completed)"

def holdingLine (p : Posture) : String := s!"Holding posture: {p.name} (Ctrl+C to stop)"

def reportPlan (h : House) (s : State) : Turn :=
  let h := match h.supervisor.sampler.slot.value with
    | some p => h.print (finalLine p)
    | none => h
  let r := h.supervisor.runner
  if r.succeeded then close h s (.code 0)
  else close (h.print (cancelledLine r.completed)) s (.code 1)

def lookAtPlan (h : House) (s : State) : Turn :=
  if h.supervisor.planEnded then reportPlan h s
  else (h, { s with activity := .driving }, .sleep 0.05)

def startPlan (h : House) (s : State) (route : String) (yaw : Float) : Turn :=
  let (segments, notes) := Route.build route yaw
  let h := (h.print (initialLine yaw)).log notes
  match segments with
  | .error why => close h s (.failed why)
  | .ok segments =>
    let (h, result) := h.startPlan (segments.map .segment) (some yaw)
    match result with
    | .error why => close h s (.failed why)
    | .ok () => lookAtPlan h s

def lookForPose (v : View) (h : House) (s : State) (route : String) (w : Sampler.Wait Float) :
    Turn :=
  match h.supervisor.sampler.look w v.now with
  | .found p => startPlan h s route p.yaw
  | .expired why => close (h.log [.noFeedback why]) s (.code 1)
  | .again d => (h, { s with activity := .seeking w }, .sleep d)

def continueReading (h : House) (s : State) (session : ReadingSession Float) (how : Wake) : Turn :=
  let (h, session, need) := h.read session how
  match need with
  | .sleep d => (h, { s with activity := .reading session }, .sleep d)
  | .over .returned => close h s (.code 0)
  | .over (.raised why) => close h s (.failed why)
  | .over .cancelled => close h s .cancelled

def startHolding (h : House) (s : State) (p : Posture) (stay : Stay) : Turn :=
  let h := (h.setMode (.holding p)).print (holdingLine p)
  let s := { s with activity := .holding }
  match stay with
  | .untilStopped => (h, s, .join s.runTask)
  | .lasting d => (h, s, .sleep d)
  | .unclear => close h s (.failed (.missing .duration))

def begin (v : View) (h : House) (s : State) : Turn :=
  let timing := h.supervisor.timing
  match s.mission with
  | .plan route => lookForPose v h s route (.ofTimeout timing.feedbackTimeout 0.05 v.now)
  | .teleop source =>
    continueReading h s (.ofReader (.ofSource source true) timing.inputPeriod) .go
  | .hold p stay => startHolding h s p stay
  | .unnamed => finish (h.setMode ⟨.posture, none, none⟩) s (.failed (.missing .mission))

def rise (v : View) (h : House) (s : State) : Turn :=
  if v.ended s.runTask then (h, { s with activity := .notRisen }, .join s.runTask)
  else if h.supervisor.status = .active then begin v h s
  else (h, { s with activity := .rising }, .sleep 0.05)

/-- A mission that waits is cancelled only after the supervisor has been stopped. -/
def cancel (h : House) (s : State) : Turn :=
  match s.activity with
  | .seeking _ => close h s .cancelled
  | .driving => close h s .cancelled
  | .holding => close h s .cancelled
  | .reading session => continueReading h s session .cancelled
  | _ => finish h s .cancelled

def resume (v : View) (h : House) (s : State) : Turn :=
  match s.activity, s.mission with
  | .opening, _ =>
    (h, { s with activity := .opened }, .start (.supervise (.ready s.interface) none))
  | .opened, _ => rise v h s
  | .rising, _ => rise v h s
  | .notRisen, _ => finish (h.log [.notStarted h.supervisor.status]) s (.code 1)
  | .seeking w, .plan route => lookForPose v h s route w
  | .driving, _ => lookAtPlan h s
  | .reading session, _ => continueReading h s session .go
  | .closing r, _ => finish h s r
  | .over r, _ => finish h s r
  | _, _ => close h s (.code 0)

def fail (h : House) (s : State) (why : Fault Float) : Turn :=
  match s.activity with
  | .holding => close h s (.failed why)
  | _ => finish h s (.failed why)

def program : Program State := fun v h s how =>
  match how with
  | .cancelled => cancel h s
  | .raised why => fail h s why
  | .started t => resume v h { s with runTask := t }
  | .go => resume v h s

def run (b : Bench Float) (interface : String) (m : Mission) (interruptAt : Option Float) :
    Finished State :=
  Program.run program (.ofBench b) (.ofMission interface m) interruptAt

def result (f : Finished State) : Result :=
  match f.program.activity with
  | .over r => r
  | _ => .cancelled

end Mission
end Quadruped
