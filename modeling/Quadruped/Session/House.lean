import Quadruped.Bench
import Quadruped.Schedule.Rounds
import Quadruped.Teleop.Session

/-!
The house that the programs run in: a supervisor at its robot, and what has been written. One task
drives the supervisor, others may read keys, and the first is the program itself.
-/
namespace Quadruped

open Schedule

structure House where
  bench : Bench Float
  /-- What has been written, newest first. -/
  lines : List (Line Float)

inductive Job (M : Type) where
  /-- The supervisor's run, with a reply that it has not yet seen. -/
  | supervise (run : Run Float) (reply : Option (Reply Float))
  | read (session : ReadingSession Float)
  | main (program : M)

abbrev Next (M : Type) := Intent (Job M) Empty

abbrev Program (M : Type) := View → House → M → Wake → House × M × Next M

def Schedule.Wake.reply : Wake → Reply Float
  | .go => .ok
  | .started _ => .ok
  | .raised why => .raised why
  | .cancelled => .cancelled

namespace House

def ofBench (b : Bench Float) : House := ⟨b, []⟩

def write (h : House) (lines : List (Line Float)) : House :=
  { h with lines := lines.reverse ++ h.lines }

def log (h : House) (notes : List (Note Float)) : House := h.write (notes.map .note)

def print (h : House) (text : String) : House := h.write [.print text]

def supervisor (h : House) : Supervisor Float := h.bench.supervisor

def withSupervisor (h : House) (s : Supervisor Float) : House :=
  { h with bench := { h.bench with supervisor := s } }

def setMode (h : House) (m : Mode) : House :=
  let (bench, notes) := h.bench.setMode m
  { h with bench }.log notes

def stop (h : House) : House := { h with bench := h.bench.stop }

def startPlan (h : House) (items : List (PlanItem Float)) (heading : Option Float) :
    House × Except (Fault Float) Unit :=
  let o := h.bench.startPlan items heading
  ({ h with bench := o.state }.log o.notes, o.result)

variable {M : Type}

/-- One request of the supervisor: the robot answers at once, a sleep is for the schedule. -/
def supervise (h : House) (now : Float) (run : Run Float) (reply : Reply Float) :
    House × Job M × Next M :=
  let p := run.resume (h.bench.moment now) h.supervisor reply
  let h := (h.withSupervisor p.supervisor).log p.notes
  match p.request with
  | .sleep d => (h, .supervise p.run none, .sleep d)
  | .finish e => (h, .supervise p.run none, .finish e)
  | request =>
    let (bench, answer, notes) := h.bench.answer now request
    ({ h with bench }.log notes, .supervise p.run (some answer), .proceed)

def read (h : House) (session : ReadingSession Float) (how : Wake) :
    House × ReadingSession Float × KeySession.Need Float :=
  let p := session.resume h.supervisor how.reply
  ((h.withSupervisor p.supervisor).write p.lines, p.session, p.need)

def resume (program : Program M) (v : View) (h : House) (job : Job M) (how : Wake) :
    House × Job M × Next M :=
  match job with
  | .supervise run reply => h.supervise v.now run (reply.getD how.reply)
  | .read session =>
    let (h, session, need) := h.read session how
    match need with
    | .sleep d => (h, .read session, .sleep d)
    | .over e => (h, .read session, .finish e)
  | .main m =>
    let (h, m, next) := program v h m how
    (h, .main m, next)

/-- The flag that tasks can wait for is up once the supervisor has been active. -/
def behaviour (program : Program M) : Behaviour House (Job M) Empty where
  resume := resume program
  flag h := h.supervisor.activated
  deliver _ cargo _ := nomatch cargo

end House

structure Finished (M : Type) where
  house : House
  now : Float
  interrupted : Bool
  program : M
  jobs : List (Job M)

def Program.run {M : Type} (program : Program M) (h : House) (start : M)
    (interruptAt : Option Float) : Finished M :=
  let w := World.run (House.behaviour program) World.patience
    (World.ofJob h (.main start) interruptAt)
  let jobs := (List.range w.tasks.size).filterMap w.job?
  let last := match jobs.head? with
    | some (.main m) => m
    | _ => start
  ⟨w.shared, w.now, w.interrupted, last, jobs⟩

end Quadruped
