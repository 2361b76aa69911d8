import Quadruped.Proofs.Plan.Rest
import Quadruped.Proofs.Supervisor.Frame

/-!
A run of the supervisor under way. Other tasks act on the supervisor between two requests, and the
answers to the requests are arbitrary: they may be faults or a cancellation, in any order. A course
keeps every command that the run has handed to the robot, with the leg of the run that it is from.
-/
namespace Quadruped

/-- What another task does to a supervisor while its run waits. -/
inductive Call (R : Type) where
  | setMode (m : Mode)
  | startPlan (items : List (PlanItem R)) (heading : Option R)
  | cancelPlan
  | stop
  | hear (p : Pose R)

/-- The legs of a run, in the order in which it takes them. -/
inductive Leg where
  | startup
  | halt
  | tick
  | failsafe
  | cleanup
deriving DecidableEq, Repr

structure Handed (R : Type) where
  leg : Leg
  command : Command R
deriving DecidableEq, Repr

inductive Event (R : Type) where
  | call (c : Call R)
  /-- The plan runner is put into any state at all: its ticks may fail in any pattern. -/
  | upset (r : Runner R)
  | answer (m : Run.Moment R) (reply : Reply R)

structure Course (R : Type) where
  supervisor : Supervisor R
  run : Run R
  /-- Oldest first. -/
  handed : List (Handed R)

variable {R : Type}

def Run.leg : Run R → Leg
  | .ready _ | .connecting _ | .rousing .. | .dwelling .. => .startup
  | .halting => .halt
  | .sending .. | .pacing _ => .tick
  | .tripping _ => .failsafe
  | .parking _ | .leaving _ | .over _ => .cleanup

def Run.Progress.handed (p : Run.Progress R) : List (Handed R) :=
  match p.request with
  | .send c => [⟨p.run.leg, c⟩]
  | _ => []

/-- A supervisor with the standard settings, but so many startup repetitions, whose dispatch fails in
the calls of the given numbers. -/
def Supervisor.standard (repeats : Int) (breakdowns : List Nat) : Supervisor Float :=
  .create { Timing.standard with startupRepeats := repeats } ⟨.standard, breakdowns, 0⟩ .standard
    [.recorder]

variable [Scalar R]

def Supervisor.obey (s : Supervisor R) : Call R → Supervisor R
  | .setMode m => (s.setMode m).1
  | .startPlan items heading => (s.startPlan items heading).state
  | .cancelPlan => s.cancelPlan.1
  | .stop => s.stop
  | .hear p => { s with sampler := (s.sampler.update p).1 }

namespace Course

def begin (s : Supervisor R) (interface : String) : Course R :=
  ⟨(Run.begin s interface).supervisor, (Run.begin s interface).run, []⟩

def step (c : Course R) : Event R → Course R
  | .call k => { c with supervisor := c.supervisor.obey k }
  | .upset r => { c with supervisor := { c.supervisor with runner := r } }
  | .answer m reply =>
    let p := c.run.resume m c.supervisor reply
    ⟨p.supervisor, p.run, c.handed ++ p.handed⟩

def after (c : Course R) (events : List (Event R)) : Course R := events.foldl step c

@[simp] theorem after_nil (c : Course R) : c.after [] = c := rfl

@[simp] theorem after_cons (c : Course R) (e : Event R) (events : List (Event R)) :
    c.after (e :: events) = (c.step e).after events := rfl

@[simp] theorem after_append (c : Course R) (first second : List (Event R)) :
    c.after (first ++ second) = (c.after first).after second := List.foldl_append

theorem after_keeps {P : Course R → Prop} {events : List (Event R)} {c : Course R} (first : P c)
    (steps : ∀ c, ∀ e ∈ events, P c → P (c.step e)) : P (c.after events) := by
  induction events generalizing c with
  | nil => exact first
  | cons e rest ih =>
    obtain ⟨now, later⟩ := List.forall_mem_cons.mp fun e member c => steps c e member
    exact ih (now c first) fun c e member => later e member c

end Course

/-- Other tasks reach no more than the mode, the plan, the flag that keeps the run going, and the
newest pose. -/
theorem Supervisor.obey_only (s : Supervisor R) (c : Call R) :
    ∃ mode runner running sampler, s.obey c = { s with mode, runner, running, sampler } := by
  cases c with
  | setMode m =>
    obtain ⟨runner, eq⟩ := s.setMode_only m
    exact ⟨⟨m⟩, runner, s.running, s.sampler, eq⟩
  | startPlan items heading =>
    obtain ⟨mode, runner, eq⟩ := s.startPlan_only items heading
    exact ⟨mode, runner, s.running, s.sampler, eq⟩
  | cancelPlan => exact ⟨s.mode, s.runner.cancel.1, s.running, s.sampler, rfl⟩
  | stop => exact ⟨s.mode, s.runner, false, s.sampler, rfl⟩
  | hear p => exact ⟨s.mode, s.runner, s.running, (s.sampler.update p).1, rfl⟩

@[simp] theorem Supervisor.obey_status (s : Supervisor R) (c : Call R) :
    (s.obey c).status = s.status := by
  obtain ⟨mode, runner, running, sampler, eq⟩ := s.obey_only c
  rw [eq]

@[simp] theorem Supervisor.obey_timing (s : Supervisor R) (c : Call R) :
    (s.obey c).timing = s.timing := by
  obtain ⟨mode, runner, running, sampler, eq⟩ := s.obey_only c
  rw [eq]

end Quadruped
