import Quadruped.Dispatch
import Quadruped.Pacing
import Quadruped.Plan.Runner
import Quadruped.Sampler

/-!
The supervisor: the mode that the operator selects, the plan that runs in it, and the status of the
whole. Here are its state and the operations that other tasks call.
-/
namespace Quadruped

structure Timing (R : Type) where
  controlPeriod : R
  inputPeriod : R
  feedbackTimeout : R
  startupRepeats : Int
  startupInterval : R
  lagWarning : Option R
deriving DecidableEq, Repr

def Timing.standard : Timing Float := ⟨0.01, 0.05, 3.0, 30, 0.1, some 0.005⟩

inductive Listener where
  | recorder
  | announcer
  | failing
deriving DecidableEq, Repr

structure Notice (R : Type) where
  listener : Nat
  time : R
  old : Status
  new : Status
deriving DecidableEq, Repr

structure Supervisor (R : Type) where
  timing : Timing R
  dispatch : Dispatch R
  runner : Runner R
  sampler : Sampler R
  status : Status
  running : Bool
  activated : Bool
  mode : Cell Mode
  lastCommand : Option (Command R)
  latched : Option Posture
  ticks : Nat
  listeners : List Listener
  told : List (Notice R)
deriving DecidableEq, Repr

namespace Supervisor

variable {R : Type} [Scalar R]

def create (timing : Timing R) (dispatch : Dispatch R) (runner : Runner R)
    (listeners : List Listener) : Supervisor R where
  timing := timing
  dispatch := dispatch
  runner := runner
  sampler := .empty
  status := .disconnected
  running := false
  activated := false
  mode := ⟨.idle⟩
  lastCommand := none
  latched := none
  ticks := 0
  listeners := listeners
  told := []

def currentMode (s : Supervisor R) : Mode := s.mode.value

def cancelPlan (s : Supervisor R) : Supervisor R × List (Note R) :=
  let (runner, notes) := s.runner.cancel
  ({ s with runner }, notes)

/-- Selects what drives the robot; a plan that is left is cancelled. -/
def setMode (s : Supervisor R) (m : Mode) : Supervisor R × List (Note R) :=
  let (mode, old) := s.mode.swap m
  let s := { s with mode }
  if old = m then (s, [])
  else if old.kind = .autonomous && m.kind ≠ .autonomous then
    let (s, notes) := s.cancelPlan
    (s, .modeChanged old m :: notes)
  else (s, [.modeChanged old m])

def startPlan (s : Supervisor R) (items : List (PlanItem R)) (heading : Option R) :
    Outcome R (Supervisor R) Unit :=
  ((s.runner.start items heading).within fun runner => { s with runner }).andThen fun s _ =>
    let (s, notes) := s.setMode .autonomous
    .ok s () notes

def stop (s : Supervisor R) : Supervisor R := { s with running := false }

def Listener.notes (old new : Status) : Listener → List (Note R)
  | .recorder => []
  | .announcer => [.demoStatus old new]
  | .failing => [.callbackFailed (.breakdown .callback)]

/-- A change of status, told to every listener in turn, whatever comes of it. -/
def transition (s : Supervisor R) (now : R) (new : Status) : Supervisor R × List (Note R) :=
  if new = s.status then (s, [])
  else
    let notices := (List.range s.listeners.length).map (Notice.mk · now s.status new)
    ({ s with
        status := new, activated := s.activated || new == .active
        told := s.told ++ notices },
      .statusChanged s.status new :: s.listeners.flatMap (Listener.notes s.status new))

def planEnded (s : Supervisor R) : Bool := !s.running || s.runner.isFinished

end Supervisor
end Quadruped
