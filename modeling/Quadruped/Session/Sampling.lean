import Quadruped.Sampler
import Quadruped.Schedule.Rounds

/-!
A session with a sampler alone: poses that arrive now or later, and waits for the first of them.
-/
namespace Quadruped.Sampling

open Schedule

/-- A pose that is stamped when it arrives, unless it carries a time. -/
structure PoseForm where
  x : Float
  y : Float
  z : Float
  yaw : Float
  time : Option Float
deriving Repr

def PoseForm.stamp (p : PoseForm) (now : Float) : Pose Float :=
  ⟨p.x, p.y, p.z, p.yaw, p.time.getD now⟩

inductive Errand where
  | update (p : PoseForm)
  | latest
  | later (delay : Float) (p : PoseForm)
  | wait (timeout interval : Float)
  | setClock (now : Float)
  | advanceClock (dt : Float)

inductive Value where
  | nothing
  | pose (p : Pose Float)
  | waited (p : Pose Float)
  | failed (why : Fault Float)

structure Desk where
  sampler : Sampler Float
  notes : List (Note Float)

structure Report where
  value : Value
  now : Float
  sampler : Sampler Float
  notes : List (Note Float)

inductive Activity where
  | free
  | finishing
  | waiting (w : Sampler.Wait Float)

structure State where
  errands : List Errand
  activity : Activity
  /-- Newest first. -/
  reports : List Report

abbrev Turn := Desk × State × Intent State PoseForm

def Desk.update (d : Desk) (p : Pose Float) : Desk :=
  let (sampler, notes) := d.sampler.update p
  ⟨sampler, d.notes ++ notes⟩

def report (v : View) (d : Desk) (s : State) (value : Value) : Turn :=
  ({ d with notes := [] },
    { s with activity := .free, reports := ⟨value, v.now, d.sampler, d.notes⟩ :: s.reports },
    .proceed)

def look (v : View) (d : Desk) (s : State) (w : Sampler.Wait Float) : Turn :=
  match d.sampler.look w v.now with
  | .found p => report v d s (.waited p)
  | .expired why => report v d s (.failed why)
  | .again after => (d, { s with activity := .waiting w }, .sleep after)

def perform (v : View) (d : Desk) (s : State) : Errand → Turn
  | .update p => report v (d.update (p.stamp v.now)) s .nothing
  | .latest =>
    match d.sampler.latest with
    | .ok p => report v d s (.pose p)
    | .error why => report v d s (.failed why)
  | .later delay p => (d, { s with activity := .finishing }, .deliverLater delay p)
  | .wait timeout interval => look v d s (.ofTimeout timeout interval v.now)
  | .setClock now => (d, { s with activity := .finishing }, .setClock now)
  | .advanceClock dt => (d, { s with activity := .finishing }, .setClock (v.now + dt))

def resume (v : View) (d : Desk) (s : State) (_ : Wake) : Turn :=
  match s.activity with
  | .waiting w => look v d s w
  | .finishing => report v d s .nothing
  | .free =>
    match s.errands with
    | e :: rest => perform v d { s with errands := rest } e
    | [] => (d, s, .finish .returned)

def behaviour : Behaviour Desk State PoseForm where
  resume := resume
  flag _ := false
  deliver now p d := d.update (p.stamp now)

def run (errands : List Errand) : List Report :=
  let w := World.run behaviour World.patience
    (World.ofJob ⟨.empty, []⟩ ⟨errands, .free, []⟩ none)
  ((w.job? 0).map fun s => s.reports.reverse).getD []

end Quadruped.Sampling
