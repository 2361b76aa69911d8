import Quadruped.Plan.Reading
import Quadruped.Session.House

/-!
The demonstration: one plan on the simulated robot, and a report of where it ended.
-/
namespace Quadruped.Demo

open Schedule

inductive Activity where
  | opening
  | opened
  | rising
  | seeking (w : Sampler.Wait Float)
  | driving
  | closing (finished : Bool)
  | over (result : Option (Except (Fault Float) Bool))

structure State where
  plan : String
  activity : Activity
  runTask : Nat

def State.ofPlan (plan : String) : State := ⟨plan, .opening, 0⟩

abbrev Turn := House × State × Next State

def finish (h : House) (s : State) (b : Bool) : Turn :=
  (h, { s with activity := .over (some (.ok b)) }, .finish .returned)

def fail (h : House) (s : State) (why : Fault Float) : Turn :=
  (h, { s with activity := .over (some (.error why)) }, .finish (.raised why))

def listed : Nat → List (Segment Float) → List (Note Float)
  | _, [] => []
  | i, .turn a :: rest => .demoTurn i a :: listed (i + 1) rest
  | i, .travel d :: rest => .demoTravel i d :: listed (i + 1) rest

def reportPlan (v : View) (h : House) (s : State) : Turn :=
  let finished := h.supervisor.runner.succeeded
  let p := h.bench.rig.simulator.pose v.now
  let h := (h.log [.demoResult finished h.supervisor.ticks p.x p.y p.yaw]).stop
  (h, { s with activity := .closing finished }, .join s.runTask)

def lookAtPlan (v : View) (h : House) (s : State) : Turn :=
  if h.supervisor.planEnded then reportPlan v h s
  else (h, { s with activity := .driving }, .sleep 0.05)

def startPlan (v : View) (h : House) (s : State) (yaw : Float) : Turn :=
  let (segments, notes) := Route.build s.plan yaw
  let h := h.log notes
  match segments with
  | .error why => fail h s why
  | .ok segments =>
    let (h, result) := (h.log (listed 1 segments)).startPlan (segments.map .segment) (some yaw)
    match result with
    | .error why => fail h s why
    | .ok () => lookAtPlan v h s

def lookForPose (v : View) (h : House) (s : State) (w : Sampler.Wait Float) : Turn :=
  match h.supervisor.sampler.look w v.now with
  | .found p => startPlan v h s p.yaw
  | .expired why => fail h s why
  | .again d => (h, { s with activity := .seeking w }, .sleep d)

def resume (v : View) (h : House) (s : State) : Turn :=
  match s.activity with
  | .opening =>
    (h.log [.demoRule, .demoTitle s.plan, .demoRule], { s with activity := .opened },
      .start (.supervise (.ready "sim0") none))
  | .opened => (h, { s with activity := .rising }, .awaitFlag (some 2.0))
  | .rising => lookForPose v h s (.ofTimeout 1.0 0.05 v.now)
  | .seeking w => lookForPose v h s w
  | .driving => lookAtPlan v h s
  | .closing finished =>
    finish (h.log [.demoSent h.bench.rig.simulator.commandCount]) s finished
  | .over _ => (h, s, .finish .returned)

def program : Program State := fun v h s how =>
  match how with
  | .cancelled => (h, { s with activity := .over none }, .finish .cancelled)
  | .raised why => fail h s why
  | .started t => resume v h { s with runTask := t }
  | .go => resume v h s

def bench (drift : Float) : Except (Fault Float) (Bench Float) := do
  let simulator ← Simulator.create { Simulator.Setup.standard with drift }
  let runner ← Runner.create { Gains.standard with turnSpeed := 0.8 } "elapsed"
  let dispatch ← Dispatch.ofSpeeds Speeds.standard []
  let timing := { Timing.standard with controlPeriod := 0.02, startupRepeats := 0 }
  .ok ⟨.create timing dispatch runner [.announcer], .ofSimulator simulator .none⟩

def result (f : Finished State) : Option (Except (Fault Float) Bool) :=
  match f.program.activity with
  | .over r => r
  | _ => none

def run (plan : String) (drift : Float) (interruptAt : Option Float) :
    Except (Fault Float) (Finished State) :=
  (bench drift).map fun b => Program.run program (.ofBench b) (.ofPlan plan) interruptAt

end Quadruped.Demo
