import Quadruped.Schedule.Basic

/-!
How a task runs, waits, ends and is cancelled.
-/
namespace Quadruped.Schedule.World

variable {S J E : Type}

/-- Cancels what the task waits for, if that is still open: a task that it joins, or a signal. A task
that waits for nothing is cancelled when it next runs. -/
def cancelChain : Nat → World S J E → Nat → World S J E
  | 0, w, _ => w
  | depth + 1, w, t =>
    match w.tasks[t]? with
    | none => w
    | some task =>
      if task.ending.isSome then w
      else
        match task.waits with
        | some i =>
          if w.isPending i then
            match (w.signal i).owner with
            | some inner => cancelChain depth w inner
            | none => w.settle i .cancelled
          else w.modifyTask t fun task => { task with mustCancel := true }
        | none => w.modifyTask t fun task => { task with mustCancel := true }

def cancelTask (w : World S J E) (t : Nat) : World S J E := cancelChain (w.tasks.size + 1) w t

def finishTask (w : World S J E) (t : Nat) (e : Ending Float) : World S J E :=
  match w.tasks[t]? with
  | none => w
  | some task => (w.modifyTask t fun task => { task with ending := some e }).fulfil task.signal

def waitFresh (w : World S J E) (t : Nat) : World S J E × Nat :=
  let (w, i) := w.addSignal [.wake t] none
  (w.waitOn t i, i)

def goOn (w : World S J E) (t : Nat) (how : Wake) : World S J E :=
  { w with current := .proceed t how :: w.current }

/-- A sleep of no time is a turn given up: the task is ready again in the next round. -/
def sleepTask (w : World S J E) (t : Nat) (duration : Float) : World S J E :=
  if duration ≤ 0 then w.push (.step t)
  else
    let (w, i) := w.waitFresh t
    w.addTimer (w.now + duration) (.fulfil i)

def joinTask (w : World S J E) (t inner : Nat) : World S J E :=
  match w.tasks[inner]? with
  | none => w.goOn t .go
  | some task =>
    match task.ending with
    | some e => w.goOn t (.ofEnding e)
    | none => (w.hang task.signal (.wake t)).waitOn t task.signal

def signalOf (w : World S J E) (t : Nat) : Nat := ((w.tasks[t]?).map Task.signal).getD 0

def reap (w : World S J E) (t inner : Nat) (expired : Bool) : World S J E :=
  let (w, i) := w.waitFresh t
  let w := (w.hang (w.signalOf inner) (.release i)).cancelTask inner
  w.modifyTask t fun task => { task with guarded := some (.reaping inner expired) }

/-- Waits for the flag with a limit: an inner task waits, and whichever is first, its end or the
time, releases the outer one. -/
def raceFlag (w : World S J E) (t : Nat) (timeout : Float) : World S J E :=
  if timeout ≤ 0 then
    let (w, inner) := w.addTask .flagWait []
    w.reap t inner true
  else
    let (w, i) := w.waitFresh t
    let w := w.addTimer (w.now + timeout) (.fulfil i)
    let (w, inner) := w.addTask .flagWait [.release i]
    w.modifyTask t fun task => { task with guarded := some (.racing inner) }

variable (b : Behaviour S J E)

def awaitFlag (w : World S J E) (t : Nat) : World S J E :=
  let (w, i) := w.waitFresh t
  { w with flagWaiters := w.flagWaiters ++ [i] }

def raiseFlag (w : World S J E) : World S J E :=
  if b.flag w.shared then
    w.flagWaiters.foldl (fun w i => w.fulfil i) { w with flagWaiters := [] }
  else w

def follow (w : World S J E) (t : Nat) : Intent J E → World S J E
  | .proceed => w.goOn t .go
  | .sleep d => w.sleepTask t d
  | .start job =>
    let (w, inner) := w.addTask (.job job) []
    w.goOn t (.started inner)
  | .join inner => w.joinTask t inner
  | .awaitFlag none => if b.flag w.shared then w.goOn t .go else w.awaitFlag t
  | .awaitFlag (some limit) => w.raceFlag t limit
  | .deliverLater delay cargo => (w.addTimer (w.now + delay) (.deliver cargo)).goOn t .go
  | .setClock now => { w with now }.goOn t .go
  | .finish e => w.finishTask t e

def runJob (w : World S J E) (t : Nat) (j : J) (how : Wake) : World S J E :=
  let (shared, j, intent) := b.resume w.view w.shared j how
  let w := { w with shared }.modifyTask t fun task => { task with work := .job j }
  (w.raiseFlag b).follow b t intent

def runFlagWait (w : World S J E) (t : Nat) : Wake → World S J E
  | .cancelled => w.finishTask t .cancelled
  | _ => if b.flag w.shared then w.finishTask t .returned else w.awaitFlag t

def drive (w : World S J E) (t : Nat) (how : Wake) : World S J E :=
  match (w.tasks[t]?).map Task.work with
  | none => w
  | some (.job j) => w.runJob b t j how
  | some .flagWait => w.runFlagWait b t how

/-- What a wait with a limit comes to. One that is cancelled when it has just succeeded succeeds. -/
def passGuard (w : World S J E) (t : Nat) (how : Wake) : Guard → World S J E
  | .racing inner =>
    match w.ending? inner, how with
    | some e, _ => w.drive b t (.ofEnding e)
    | none, .cancelled => w.reap t inner false
    | none, _ => w.reap t inner true
  | .reaping inner expired =>
    match how, expired, w.ending? inner with
    | .cancelled, _, _ => w.drive b t .cancelled
    | _, false, _ => w.drive b t .cancelled
    | _, true, some .returned => w.drive b t .go
    | _, true, some (.raised why) => w.drive b t (.raised why)
    | _, true, _ => w.drive b t (.raised .timedOut)

/-- A task runs, cancelled if that was asked for meanwhile. -/
def resumeTask (w : World S J E) (t : Nat) (how : Wake) : World S J E :=
  match w.tasks[t]? with
  | none => w
  | some task =>
    if task.ending.isSome then w
    else
      let how := if task.mustCancel then .cancelled else how
      let w := w.modifyTask t fun task =>
        { task with mustCancel := false, waits := none, guarded := none }
      match task.guarded with
      | none => w.drive b t how
      | some g => w.passGuard b t how g

def wakeBy (w : World S J E) (i : Nat) : Wake :=
  let s := w.signal i
  if s.state == .cancelled then .cancelled
  else
    match s.owner.bind w.ending? with
    | some e => .ofEnding e
    | none => .go

end Quadruped.Schedule.World
