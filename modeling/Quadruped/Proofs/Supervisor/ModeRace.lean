import Mathlib.Control.Monad.Basic
import Quadruped.Proofs.Supervisor.PlanMode

/-!
A tick and the calls that overtake it. A tick reads the mode, waits for its send, and may leave the
mode of a plan that is over; between the two the mode and the plan may have changed any number of
times, and may have come back to what they were.
-/
namespace Quadruped

variable {R : Type}

namespace Supervisor

/-- The end of a tick changes the mode in one case only: it is the one that the tick has read, it is
that of a plan, and the plan is over. -/
theorem settle_mode (s : Supervisor R) (m : Mode) :
    (s.settle m).1.currentMode =
      if s.currentMode = m ∧ m.kind = .autonomous ∧ s.runner.isFinished = true then .idle
      else s.currentMode := by
  unfold settle Cell.compareAndSet
  by_cases ended : m.kind = .autonomous ∧ s.runner.isFinished = true
  · by_cases same : s.currentMode = m
    · simp [currentMode] at same ⊢
      simp [ended, same]
    · simp [currentMode] at same ⊢
      simp [ended, same]
  · have kept : (decide (m.kind = .autonomous) && s.runner.isFinished) = false := by
      simpa using ended
    simp only [kept, Bool.false_eq_true, ↓reduceIte]
    rw [if_neg fun all => ended all.2]
    rfl

theorem settle_while_running {s : Supervisor R} (running : s.runner.isRunning = true) (m : Mode) :
    (s.settle m).1.currentMode = s.currentMode ∧ (s.settle m).1.runner.isRunning = true := by
  constructor
  · rw [settle_mode, if_neg]
    rintro ⟨_, _, finished⟩
    rw [Runner.finished_rests finished] at running
    cases running
  · obtain ⟨mode, eq⟩ := s.settle_only m
    rw [eq]
    exact running

variable [Scalar R]

theorem choose_mode {s : Supervisor R} {now : Instants R} {choice : Choice R}
    (chosen : (s.choose now).result = .ok choice) : choice.mode = s.currentMode := by
  obtain ⟨plan, _, mapped, _⟩ := Outcome.andThen_succeeds chosen
  split at mapped
  · cases mapped
    rfl
  · obtain ⟨c, _, last, _⟩ := Outcome.andThen_succeeds mapped
    cases last
    rfl

theorem obey_goes_on {s : Supervisor R} {c : Call R} (running : s.runner.isRunning = true)
    (goes_on : ¬ (Deed.call c).EndsPlan) : (s.obey c).runner.isRunning = true := by
  cases c with
  | setMode m =>
    rcases s.setMode_cases m with ⟨eq, _⟩ | ⟨_, _, leaves⟩
    · change (s.setMode m).1.runner.isRunning = true
      rw [eq]
      exact running
    · exact absurd leaves goes_on
  | startPlan items heading =>
    obtain ⟨same, why, failed⟩ := Runner.start_while_running running items heading
    change (s.startPlan items heading).state.runner.isRunning = true
    rw [(startPlan_fails failed).1]
    exact (congrArg Runner.isRunning same).trans running
  | cancelPlan => exact absurd trivial goes_on
  | stop => exact running
  | hear p => exact running

theorem startPlan_runs {s : Supervisor R} {items : List (PlanItem R)} {heading : Option R}
    (started : (s.startPlan items heading).result = .ok ()) :
    (s.startPlan items heading).state.runner.isRunning = true := by
  cases result : (s.runner.start items heading).result with
  | error why =>
    rw [(startPlan_fails result).2] at started
    cases started
  | ok u =>
    rw [(startPlan_succeeds result).1]
    rcases setMode_cases { s with runner := (s.runner.start items heading).state } .autonomous with
      ⟨eq, _⟩ | ⟨_, _, leaves⟩
    · rw [eq]
      exact Runner.start_runs result
    · exact absurd rfl leaves

end Supervisor

namespace Watch

variable [Scalar R]

def hearing (w : Watch R) (calls : List (Call R)) : Watch R := w.after (calls.map .call)

theorem hearing_underWay (w : Watch R) (calls : List (Call R)) :
    (w.hearing calls).underWay = w.underWay := by
  induction calls generalizing w with
  | nil => rfl
  | cons c rest ih => exact ih (w.step (.call c))

theorem hearing_goes_on {w : Watch R} {calls : List (Call R)}
    (running : w.supervisor.runner.isRunning = true)
    (goes_on : ∀ c ∈ calls, ¬ (Deed.call c).EndsPlan) :
    (w.hearing calls).supervisor.runner.isRunning = true := by
  induction calls generalizing w with
  | nil => exact running
  | cons c rest ih =>
    obtain ⟨first, others⟩ := List.forall_mem_cons.mp goes_on
    exact ih (w := w.step (.call c)) (Supervisor.obey_goes_on running first) others

theorem hearing_append (w : Watch R) (first second : List (Call R)) :
    w.hearing (first ++ second) = (w.hearing first).hearing second := by
  simp [hearing, after]

theorem started_goes_on {w : Watch R} {before later : List (Call R)} {items : List (PlanItem R)}
    {heading : Option R}
    (started : ((w.hearing before).supervisor.startPlan items heading).result = .ok ())
    (goes_on : ∀ c ∈ later, ¬ (Deed.call c).EndsPlan) :
    (w.hearing (before ++ .startPlan items heading :: later)).supervisor.runner.isRunning = true := by
  rw [hearing_append]
  exact hearing_goes_on (w := (w.hearing before).step (.call (.startPlan items heading)))
    (Supervisor.startPlan_runs started) goes_on

theorem waiting_chose {w : Watch R} {now : Instants R} {choice : Supervisor.Choice R}
    (waits : (w.beginTick now).underWay = w.underWay ++ [choice]) :
    choice.mode = w.supervisor.currentMode ∧
      (w.beginTick now).supervisor.currentMode = w.supervisor.currentMode := by
  unfold beginTick at waits ⊢
  dsimp only at waits ⊢
  split at waits
  · simp at waits
  · rename_i chosen result
    split at waits
    · rename_i needed
      have same : chosen = choice := by simpa using waits
      obtain ⟨runner, dispatch, chose⟩ := w.supervisor.choose_only now
      obtain ⟨latched, wired⟩ := (w.supervisor.choose now).state.wire_only chosen.command
      refine ⟨same ▸ Supervisor.choose_mode result, ?_⟩
      rw [if_pos needed, wired, chose]
      rfl
    · simp at waits

theorem endTick_last {w : Watch R} {earlier : List (Supervisor.Choice R)}
    {choice : Supervisor.Choice R} (last : w.underWay = earlier ++ [choice]) :
    (w.endTick earlier.length .ok).supervisor =
      ((w.supervisor.record choice.command).1.settle choice.mode).1 := by
  have found : w.underWay[earlier.length]? = some choice := by simp [last]
  simp [endTick, found]

theorem tick_keeps_later_mode {gains : Gains R} {source : String} {runner : Runner R}
    (made : Runner.create gains source = .ok runner) (timing : Timing R) (dispatch : Dispatch R)
    (listeners : List Listener) (deeds : List (Deed R)) (now : Instants R) (choice : Supervisor.Choice R)
    (calls : List (Call R)) :
    let w := (fresh timing dispatch runner listeners).after deeds
    let begun := w.step (.beginTick now)
    let held := begun.hearing calls
    let done := held.step (.endTick w.underWay.length .ok)
    begun.underWay = w.underWay ++ [choice] →
      choice.mode = w.supervisor.currentMode ∧
      begun.supervisor.currentMode = w.supervisor.currentMode ∧
      done.supervisor.currentMode =
        (if held.supervisor.currentMode = choice.mode ∧ choice.mode.kind = .autonomous ∧
            held.supervisor.runner.isFinished = true then .idle
          else held.supervisor.currentMode) ∧
      (held.supervisor.currentMode.kind ≠ .autonomous →
        done.supervisor.currentMode = held.supervisor.currentMode) ∧
      (held.supervisor.runner.isRunning = true →
        done.supervisor.currentMode = held.supervisor.currentMode ∧
          done.supervisor.currentMode.kind = .autonomous ∧
          done.supervisor.runner.isRunning = true) ∧
      ∀ before items heading later, calls = before ++ .startPlan items heading :: later →
        ((begun.hearing before).supervisor.startPlan items heading).result = .ok () →
        (∀ c ∈ later, ¬ (Deed.call c).EndsPlan) →
          held.supervisor.runner.isRunning = true := by
  intro w begun held done waits
  obtain ⟨chosen, read⟩ := waiting_chose waits
  have last : held.underWay = w.underWay ++ [choice] := (hearing_underWay begun calls).trans waits
  have ended : done.supervisor =
      ((held.supervisor.record choice.command).1.settle choice.mode).1 := endTick_last last
  have settled : done.supervisor.currentMode =
      if held.supervisor.currentMode = choice.mode ∧ choice.mode.kind = .autonomous ∧
          held.supervisor.runner.isFinished = true then .idle
        else held.supervisor.currentMode := by
    rw [ended]
    exact Supervisor.settle_mode _ choice.mode
  refine ⟨chosen, read, settled, ?_, ?_, ?_⟩
  · intro left
    rw [settled, if_neg]
    rintro ⟨same, kind, _⟩
    rw [same] at left
    exact left kind
  · intro running
    have first : (fresh timing dispatch runner listeners).supervisor.Governed :=
      Supervisor.rest_governs (Runner.create_rests made)
    have reached : w.supervisor.Governed := governed_after first deeds
    have governed : held.supervisor.Governed :=
      governed_after (governed_step w (.beginTick now) reached) _
    obtain ⟨kept, goes_on⟩ := Supervisor.settle_while_running
      (s := (held.supervisor.record choice.command).1) running choice.mode
    rw [← ended] at kept goes_on
    refine ⟨kept, ?_, goes_on⟩
    rw [kept]
    exact governed running
  · intro before items heading later split started goes_on
    change (begun.hearing calls).supervisor.runner.isRunning = true
    rw [split]
    exact started_goes_on started goes_on

/-- A tick ends a plan. Before its stop has gone out, the operator takes over and starts another plan,
so that the mode is again the one that the tick has read. -/
theorem restarted_plan_keeps_its_mode :
    let deeds : List (Deed Float) :=
      [.call (.startPlan [.segment (.travel 0.01)] none), .call (.hear ⟨0, 0, 0, 0, 0⟩),
        .beginTick (.frozen 0), .endTick 0 .ok]
    let w := (fresh .standard ⟨.standard, [], 0⟩ .standard [.recorder]).after deeds
    let begun := w.step (.beginTick (.frozen 1))
    let before : List (Call Float) := [.setMode (.teleop .forward)]
    let again : List (PlanItem Float) := [.segment (.turn 3)]
    let held := begun.hearing (before ++ [.startPlan again none])
    let done := held.step (.endTick w.underWay.length .ok)
    Runner.create .standard "elapsed" = .ok .standard ∧
      begun.underWay = w.underWay ++ [⟨.autonomous, .stop⟩] ∧
      begun.supervisor.runner.isFinished = true ∧ held.supervisor.currentMode = .autonomous ∧
      ((begun.hearing before).supervisor.startPlan again none).result = .ok () ∧
      done.supervisor.currentMode = held.supervisor.currentMode := by
  intro deeds w begun before again held done
  have made : Runner.create .standard "elapsed" = .ok .standard := by rfl
  have waits : begun.underWay = w.underWay ++ [⟨.autonomous, .stop⟩] := by decide +kernel
  have started : ((begun.hearing before).supervisor.startPlan again none).result = .ok () := by
    decide +kernel
  obtain ⟨_, _, _, _, keeps, runs⟩ := tick_keeps_later_mode made .standard ⟨.standard, [], 0⟩
    [.recorder] deeds (.frozen 1) ⟨.autonomous, .stop⟩ (before ++ [.startPlan again none]) waits
  have running := runs before again none [] rfl started (by simp)
  exact ⟨made, waits, by decide +kernel, by decide +kernel, started, (keeps running).1⟩

end Watch
end Quadruped
