import Quadruped.Schedule.Tasks

/-!
The rounds of a world. When nothing is ready the clock moves on to the first timer; all timers that
are due join what is ready; what becomes ready in a round waits for the next. The run ends when
the first task has ended and all others have been cancelled and have ended too.
-/
namespace Quadruped.Schedule.World

variable {S J E : Type} (b : Behaviour S J E)

/-- A timer of a signal that is already settled counts no more. -/
def isLive (w : World S J E) (t : Timer E) : Bool :=
  match t.entry with
  | .fulfil i => w.isPending i
  | _ => true

def nextTime (w : World S J E) : Float :=
  match w.queue, w.timers[0]? with
  | [], some t => Scalar.larger w.now t.deadline
  | _, _ => w.now

/-- A timer is due unless its time is later; one whose time is no number is due once it is first. -/
def isDue (now : Float) (t : Timer E) : Bool := !(now + 1e-9 ≤ t.deadline)

def dropSettled (w : World S J E) : World S J E :=
  { w with timers := (Heap.popWhile Timer.before (!w.isLive ·) w.timers).2 }

def startRound (w : World S J E) : World S J E :=
  let w := w.dropSettled
  let now := w.nextTime
  let (due, timers) := Heap.popWhile Timer.before (isDue now) w.timers
  let current := w.queue.reverse ++ due.map Timer.entry
  if current.isEmpty then { w with stage := .stuck }
  else { w with now, current, queue := [], timers }

def openTasks (w : World S J E) : List Nat :=
  (List.range w.tasks.size).filter (!w.hasEnded ·)

def betweenRounds (w : World S J E) : World S J E :=
  match w.stage with
  | .running => w.startRound
  | .finishing =>
    if w.openTasks.isEmpty then { w with stage := .closed }
    else w.openTasks.foldl cancelTask { w with stage := .closing }
  | .closing => if w.openTasks.isEmpty then { w with stage := .closed } else w.startRound
  | _ => w

def interruptRun (w : World S J E) : World S J E :=
  if w.hasEnded 0 then w else { w.cancelTask 0 with interrupted := true }

def process (w : World S J E) : Entry E → World S J E
  | .step t => w.resumeTask b t .go
  | .proceed t how => w.drive b t how
  | .wake t i => w.resumeTask b t (w.wakeBy i)
  | .fulfil i => w.fulfil i
  | .deliver cargo => { w with shared := b.deliver w.now cargo w.shared }
  | .interrupt => w.interruptRun
  | .endRun => { w with stage := .finishing }

def advance (w : World S J E) : World S J E :=
  match w.current with
  | [] => w.betweenRounds
  | e :: rest => { w with current := rest }.process b e

def isOver (w : World S J E) : Bool := w.stage == .closed || w.stage == .stuck

def run : Nat → World S J E → World S J E
  | 0, w => w
  | n + 1, w => if w.isOver then w else run n (w.advance b)

/-- More steps than any run of the programs takes. -/
def patience : Nat := 1000000000000

def job? (w : World S J E) (t : Nat) : Option J :=
  match (w.tasks[t]?).map Task.work with
  | some (.job j) => some j
  | _ => none

end Quadruped.Schedule.World
