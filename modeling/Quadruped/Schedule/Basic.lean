import Quadruped.Number.Double
import Quadruped.Schedule.Heap
import Quadruped.Supervisor.Run

/-!
Tasks that take turns on one clock. Whatever is ready runs in rounds; a task waits on a signal, and a
signal that is settled makes ready what hangs on it. Here are the parts of such a world.
-/
namespace Quadruped.Schedule

inductive Wake where
  | go
  | started (task : Nat)
  | raised (why : Fault Float)
  | cancelled
deriving Repr

def Wake.ofEnding : Ending Float → Wake
  | .returned => go
  | .raised why => raised why
  | .cancelled => cancelled

/-- What a task asks for when it has run as far as it can. -/
inductive Intent (J E : Type) where
  | proceed
  | sleep (duration : Float)
  | start (job : J)
  | join (task : Nat)
  | awaitFlag (timeout : Option Float)
  | deliverLater (delay : Float) (cargo : E)
  | setClock (now : Float)
  | finish (e : Ending Float)

inductive SignalState where
  | pending
  | fulfilled
  | cancelled
deriving DecidableEq, Repr

/-- What hangs on a signal. -/
inductive Hook where
  | wake (task : Nat)
  | release (signal : Nat)
  | endRun
deriving DecidableEq, Repr

structure Signal where
  state : SignalState
  hooks : List Hook
  owner : Option Nat
deriving Repr

inductive Entry (E : Type) where
  | step (task : Nat)
  | proceed (task : Nat) (how : Wake)
  | wake (task signal : Nat)
  | fulfil (signal : Nat)
  | deliver (cargo : E)
  | interrupt
  | endRun

structure Timer (E : Type) where
  deadline : Float
  created : Nat
  entry : Entry E

/-- Of two timers for one time, the older one is first. -/
def Timer.before {E : Type} (s t : Timer E) : Bool :=
  s.deadline < t.deadline || (s.deadline == t.deadline && s.created < t.created)

/-- A task that waits for the flag with a limit, by way of an inner task that waits without one. -/
inductive Guard where
  | racing (inner : Nat)
  /-- The inner task has been cancelled, because the time is up or because its waiter is. -/
  | reaping (inner : Nat) (expired : Bool)
deriving Repr

inductive Work (J : Type) where
  | job (j : J)
  | flagWait

structure Task (J : Type) where
  work : Work J
  signal : Nat
  waits : Option Nat
  mustCancel : Bool
  guarded : Option Guard
  ending : Option (Ending Float)

inductive Stage where
  | running
  | finishing
  | closing
  | closed
  /-- Nothing can ever happen again. -/
  | stuck
deriving DecidableEq, Repr

structure World (S J E : Type) where
  shared : S
  now : Float
  current : List (Entry E)
  /-- What waits for the next round, newest first. -/
  queue : List (Entry E)
  /-- The timers that have not gone off, as a heap. -/
  timers : Array (Timer E)
  timersMade : Nat
  signals : Array Signal
  tasks : Array (Task J)
  flagWaiters : List Nat
  /-- When the run is to be interrupted; a timer takes this over once there is a first timer. -/
  interruptAt : Option Float
  interrupted : Bool
  stage : Stage

structure View where
  now : Float
  ended : Nat → Bool

/-- What the jobs do, when the flag is up, and what a delivery changes. -/
structure Behaviour (S J E : Type) where
  resume : View → S → J → Wake → S × J × Intent J E
  flag : S → Bool
  deliver : Float → E → S → S

namespace World

variable {S J E : Type}

def signal (w : World S J E) (i : Nat) : Signal := w.signals.getD i ⟨.cancelled, [], none⟩

def isPending (w : World S J E) (i : Nat) : Bool := (w.signal i).state == .pending

def push (w : World S J E) (e : Entry E) : World S J E := { w with queue := e :: w.queue }

def addSignal (w : World S J E) (hooks : List Hook) (owner : Option Nat) : World S J E × Nat :=
  ({ w with signals := w.signals.push ⟨.pending, hooks, owner⟩ }, w.signals.size)

def hang (w : World S J E) (i : Nat) (h : Hook) : World S J E :=
  { w with signals := w.signals.modify i fun s => { s with hooks := s.hooks ++ [h] } }

def pushTimer (w : World S J E) (deadline : Float) (e : Entry E) : World S J E :=
  { w with
    timers := Heap.push Timer.before w.timers ⟨deadline, w.timersMade, e⟩
    timersMade := w.timersMade + 1 }

/-- The first timer of a world is followed by the interruption, where there is to be one. -/
def addTimer (w : World S J E) (deadline : Float) (e : Entry E) : World S J E :=
  let w := w.pushTimer deadline e
  match w.interruptAt with
  | none => w
  | some t => { w.pushTimer t .interrupt with interruptAt := none }

def entryOf (i : Nat) : Hook → Entry E
  | .wake t => .wake t i
  | .release s => .fulfil s
  | .endRun => .endRun

/-- A pending signal is settled, and what hangs on it becomes ready in order. -/
def settle (w : World S J E) (i : Nat) (state : SignalState) : World S J E :=
  let s := w.signal i
  if s.state == .pending then
    { w with
      signals := w.signals.modify i fun s => { s with state, hooks := [] }
      queue := (s.hooks.map (entryOf i)).reverse ++ w.queue }
  else w

def fulfil (w : World S J E) (i : Nat) : World S J E := w.settle i .fulfilled

def modifyTask (w : World S J E) (t : Nat) (f : Task J → Task J) : World S J E :=
  { w with tasks := w.tasks.modify t f }

def ending? (w : World S J E) (t : Nat) : Option (Ending Float) :=
  (w.tasks[t]?).bind Task.ending

def hasEnded (w : World S J E) (t : Nat) : Bool := (w.ending? t).isSome

def view (w : World S J E) : View := ⟨w.now, w.hasEnded⟩

def addTask (w : World S J E) (work : Work J) (hooks : List Hook) : World S J E × Nat :=
  let t := w.tasks.size
  let (w, i) := w.addSignal hooks (some t)
  let w := { w with tasks := w.tasks.push ⟨work, i, none, false, none, none⟩ }
  (w.push (.step t), t)

def waitOn (w : World S J E) (t i : Nat) : World S J E :=
  w.modifyTask t fun task => { task with waits := some i }

def ofJob (shared : S) (job : J) (interruptAt : Option Float) : World S J E :=
  let w : World S J E := {
    shared, now := 0, current := [], queue := [], timers := #[], timersMade := 0
    signals := #[], tasks := #[]
    flagWaiters := [], interruptAt, interrupted := false, stage := .running }
  (w.addTask (.job job) [.endRun]).1

end World
end Quadruped.Schedule
