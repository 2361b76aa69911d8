import Quadruped.Plan.Source
import Quadruped.Session.House

/-!
A session that follows a script of errands, one after the other, while the supervisor runs. At the
end the supervisor is stopped, and the readers in the background are awaited.
-/
namespace Quadruped.Errands

open Schedule

inductive Keys where
  | listed (keys : List (Option String))
  | named (script : String)
deriving DecidableEq, Repr

inductive Errand where
  | sleep (duration : Float)
  | setMode (m : Mode)
  | startPlan (source : PlanSource) (heading : Option Float)
  | cancelPlan
  | waitPlan (interval : Float)
  | waitActive (timeout : Option Float)
  | waitReady (timeout : Float)
  | stop
  | read (keys : Keys) (period : Float) (echo background : Bool)

inductive Value where
  | nothing
  | truth (b : Bool)
  | pose (p : Pose Float)
  | session (events : Nat) (exhausted : Bool)
  | failed (why : Fault Float)

structure Report where
  value : Value
  now : Float
  bench : Bench Float

inductive Activity where
  | opening
  | opened
  | free
  | sleeping
  | planWaiting (interval : Float)
  | activeWaiting
  | readyWaiting (w : Sampler.Wait Float)
  | reading (session : ReadingSession Float)
  | readerStarting
  | runJoining
  | readersJoining (rest : List Nat)
  | over

structure State where
  interface : String
  errands : List Errand
  activity : Activity
  runTask : Nat
  readers : List Nat
  /-- Newest first. -/
  reports : List Report
  runFault : Option (Fault Float)

def State.ofErrands (interface : String) (errands : List Errand) : State :=
  ⟨interface, errands, .opening, 0, [], [], none⟩

abbrev Turn := House × State × Next State

def report (v : View) (h : House) (s : State) (value : Value) : Turn :=
  (h, { s with activity := .free, reports := ⟨value, v.now, h.bench⟩ :: s.reports }, .proceed)

def reportResult (v : View) (h : House) (s : State) : Except (Fault Float) Unit → Turn
  | .ok () => report v h s .nothing
  | .error why => report v h s (.failed why)

def lookAtPlan (v : View) (h : House) (s : State) (interval : Float) : Turn :=
  if h.supervisor.planEnded then report v h s (.truth h.supervisor.runner.succeeded)
  else (h, { s with activity := .planWaiting interval }, .sleep interval)

def lookForPose (v : View) (h : House) (s : State) (w : Sampler.Wait Float) : Turn :=
  match h.supervisor.sampler.look w v.now with
  | .found p => report v h s (.pose p)
  | .expired why => report v h s (.failed why)
  | .again d => (h, { s with activity := .readyWaiting w }, .sleep d)

def startPlan (v : View) (h : House) (s : State) (source : PlanSource) (heading : Option Float) :
    Turn :=
  let (items, notes) := source.resolve heading
  let h := h.log notes
  match items with
  | .error why => report v h s (.failed why)
  | .ok items =>
    let (h, result) := h.startPlan items heading
    reportResult v h s result

def scriptOf : Keys → KeyScript × List (Note Float)
  | .listed keys => (.ofKeys keys, [])
  | .named name => (KeyScript.ofKeys []).load name

def continueReading (v : View) (h : House) (s : State) (session : ReadingSession Float)
    (how : Wake) : Turn :=
  let (h, session, need) := h.read session how
  match need with
  | .sleep d => (h, { s with activity := .reading session }, .sleep d)
  | .over (.raised why) => report v h s (.failed why)
  | .over _ =>
    report v h s (.session session.reader.events session.reader.source.exhausted)

def startReading (v : View) (h : House) (s : State) (keys : Keys) (period : Float)
    (echo background : Bool) : Turn :=
  let (script, notes) := scriptOf keys
  let h := h.log notes
  let session := KeySession.ofReader (.ofSource (.script script) echo) period
  if background then (h, { s with activity := .readerStarting }, .start (.read session))
  else continueReading v h s session .go

def perform (v : View) (h : House) (s : State) : Errand → Turn
  | .sleep d => (h, { s with activity := .sleeping }, .sleep d)
  | .setMode m => report v (h.setMode m) s .nothing
  | .startPlan source heading => startPlan v h s source heading
  | .cancelPlan =>
    let (bench, notes) := h.bench.cancelPlan
    report v ({ h with bench }.log notes) s .nothing
  | .waitPlan interval => lookAtPlan v h s interval
  | .waitActive timeout => (h, { s with activity := .activeWaiting }, .awaitFlag timeout)
  | .waitReady timeout => lookForPose v h s (.ofTimeout timeout 0.05 v.now)
  | .stop => report v h.stop s .nothing
  | .read keys period echo background => startReading v h s keys period echo background

def nextErrand (v : View) (h : House) (s : State) : Turn :=
  match s.errands with
  | e :: rest => perform v h { s with errands := rest } e
  | [] => (h.stop, { s with activity := .runJoining }, .join s.runTask)

def joinReaders (h : House) (s : State) : List Nat → Turn
  | t :: rest => (h, { s with activity := .readersJoining rest }, .join t)
  | [] => (h, { s with activity := .over }, .finish .returned)

def program : Program State := fun v h s how =>
  match s.activity, how with
  | .opening, .go =>
    (h, { s with activity := .opened }, .start (.supervise (.ready s.interface) none))
  | .opened, .started t => (h, { s with activity := .free, runTask := t }, .proceed)
  | .readerStarting, .started t => report v h { s with readers := s.readers ++ [t] } .nothing
  | .free, _ => nextErrand v h s
  | .runJoining, .raised why => joinReaders h { s with runFault := some why } s.readers
  | .runJoining, .go => joinReaders h s s.readers
  | .readersJoining rest, .go => joinReaders h s rest
  | .reading session, _ => continueReading v h s session how
  | .sleeping, .go => report v h s .nothing
  | .planWaiting interval, .go => lookAtPlan v h s interval
  | .activeWaiting, .go => report v h s .nothing
  | .activeWaiting, .raised why => report v h s (.failed why)
  | .readyWaiting w, .go => lookForPose v h s w
  | _, _ => (h, { s with activity := .over }, .finish .cancelled)

def run (b : Bench Float) (interface : String) (errands : List Errand) : Finished State :=
  Program.run program (.ofBench b) (.ofErrands interface errands) none

def eventCounts (f : Finished State) : List Nat :=
  f.jobs.filterMap fun job =>
    match job with
    | .read session => some session.reader.events
    | _ => none

end Quadruped.Errands
