import Quadruped.Supervisor.Basic

/-!
One control tick, in three parts: the choice of a command, what of it goes to the robot, and what is
kept of it once it has gone. Other tasks may act while the robot takes the command.
-/
namespace Quadruped.Supervisor

variable {R : Type} [Scalar R]

structure Choice (R : Type) where
  mode : Mode
  command : Command R
deriving DecidableEq, Repr

/-- The plan has its tick in its own mode; in any other, a cancelled plan still has its last stop
taken. -/
def tickPlan (s : Supervisor R) (t : Instants R) : Outcome R (Supervisor R) (Option (Command R)) :=
  if s.currentMode.kind = .autonomous then
    (s.runner.tickAt t s.sampler.slot.value).within fun runner => { s with runner }
  else if s.runner.phase = .cancelled then
    ((s.runner.tickAt t s.sampler.slot.value).within fun runner => { s with runner }).andThen
      fun s _ => .ok s none []
  else .ok s none []

/-- After a failure every choice is a stop. -/
def choose (s : Supervisor R) (t : Instants R) : Outcome R (Supervisor R) (Choice R) :=
  let mode := s.currentMode
  (s.tickPlan t).andThen fun s plan =>
    if s.status = .failsafe then .ok s ⟨mode, .stop⟩ []
    else
      ((s.dispatch.map mode plan).within fun dispatch => { s with dispatch }).andThen fun s c =>
        .ok s ⟨mode, c⟩ []

/-- Whether the command has to go out: a posture that latches goes out once. -/
def wire (s : Supervisor R) (c : Command R) : Supervisor R × Bool :=
  match c with
  | .posture p =>
    if p.latches then ({ s with latched := some p }, s.latched != some p)
    else ({ s with latched := none }, true)
  | .velocity _ => ({ s with latched := none }, true)

def isNewCommand (s : Supervisor R) (c : Command R) : Bool :=
  match s.lastCommand with
  | some old => !c.same old
  | none => true

def record (s : Supervisor R) (c : Command R) : Supervisor R × List (Note R) :=
  ({ s with lastCommand := some c }, if s.isNewCommand c then [.commanded c] else [])

/-- Counts the tick; a plan that is over leaves its mode, unless another was selected meanwhile. -/
def settle (s : Supervisor R) (mode : Mode) : Supervisor R × List (Note R) :=
  let s := { s with ticks := s.ticks + 1 }
  if mode.kind = .autonomous && s.runner.isFinished then
    let (cell, changed) := s.mode.compareAndSet mode .idle
    ({ s with mode := cell }, if changed then [.planFinished] else [])
  else (s, [])

end Quadruped.Supervisor
