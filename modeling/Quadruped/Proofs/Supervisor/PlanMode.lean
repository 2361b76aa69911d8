import Quadruped.Proofs.Plan.Rest
import Quadruped.Proofs.Supervisor.Turn
import Quadruped.Proofs.Supervisor.Watch

/-!
A plan drives the robot only in its own mode. While a plan runs the mode is the autonomous one, and a
plan that was left or cancelled gives no command any more, whatever mode is selected after it.
-/
namespace Quadruped

variable {R : Type}

namespace Supervisor

/-- A running plan has the mode that it drives in. -/
def Governed (s : Supervisor R) : Prop :=
  s.runner.isRunning = true → s.currentMode.kind = .autonomous

theorem rest_governs {s : Supervisor R} (rest : s.runner.isRunning = false) : s.Governed := by
  intro running
  rw [rest] at running
  cases running

theorem setMode_governs {s : Supervisor R} (m : Mode) (before : s.Governed) :
    (s.setMode m).1.Governed := by
  rcases s.setMode_cases m with ⟨eq, stays⟩ | ⟨eq, _, _⟩
  · rw [eq]
    intro running
    exact stays (before running)
  · rw [eq]
    exact rest_governs s.runner.cancel_rests

theorem setMode_rests {s : Supervisor R} {m : Mode} (before : s.Governed)
    (leaves : m.kind ≠ .autonomous) : (s.setMode m).1.runner.isRunning = false := by
  cases running : (s.setMode m).1.runner.isRunning with
  | false => rfl
  | true =>
    obtain ⟨runner, eq⟩ := s.setMode_only m
    have kind := setMode_governs m before running
    rw [eq] at kind
    exact absurd kind leaves

theorem setMode_stays_at_rest {s : Supervisor R} (m : Mode)
    (rest : s.runner.isRunning = false) : (s.setMode m).1.runner.isRunning = false := by
  rcases s.setMode_cases m with ⟨eq, _⟩ | ⟨eq, _⟩
  · rw [eq]
    exact rest
  · rw [eq]
    exact s.runner.cancel_rests

theorem settle_governs {s : Supervisor R} (m : Mode) (before : s.Governed) :
    (s.settle m).1.Governed := by
  unfold settle
  dsimp only
  split
  · rename_i done
    have finished : s.runner.isFinished = true := (Bool.and_eq_true_iff.mp done).2
    exact rest_governs (Runner.finished_rests finished)
  · exact before

theorem wire_governs (s : Supervisor R) (c : Command R) (before : s.Governed) :
    (s.wire c).1.Governed := by
  obtain ⟨latched, eq⟩ := s.wire_only c
  rw [eq]
  exact before

theorem settle_stays_at_rest (s : Supervisor R) (m : Mode) (rest : s.runner.isRunning = false) :
    (s.settle m).1.runner.isRunning = false := by
  obtain ⟨mode, eq⟩ := s.settle_only m
  rw [eq]
  exact rest

theorem wire_stays_at_rest (s : Supervisor R) (c : Command R)
    (rest : s.runner.isRunning = false) : (s.wire c).1.runner.isRunning = false := by
  obtain ⟨latched, eq⟩ := s.wire_only c
  rw [eq]
  exact rest

theorem trip_rests (m : Run.Moment R) (s : Supervisor R) (k : Keeper R) (why : Fault R) :
    (Run.trip m s k why).supervisor.runner.isRunning = false := by
  obtain ⟨activated, told, eq⟩ := Supervisor.transition_only
    { s with runner := s.runner.cancel.1, mode := s.mode.set .idle } (m.told .failsafe) .failsafe
  exact (congrArg (·.runner.isRunning) eq).trans s.runner.cancel_rests

theorem windDown_rests (m : Run.Moment R) (s : Supervisor R) (e : Ending R) :
    (Run.windDown m s e).supervisor.runner.isRunning = false := by
  rcases Run.windDown_cases m s e with ⟨_, _, _, eq⟩ | ⟨_, _, _, eq⟩
  · rw [eq]; exact s.runner.cancel_rests
  · obtain ⟨activated, told, only⟩ := s.stop.cancelPlan.1.transition_only (m.told .stopped) .stopped
    rw [eq, only]; exact s.runner.cancel_rests

variable [Scalar R]

theorem startPlan_governs {s : Supervisor R} (items : List (PlanItem R)) (heading : Option R)
    (before : s.Governed) : (s.startPlan items heading).state.Governed := by
  cases started : (s.runner.start items heading).result with
  | error why =>
    -- the mode stays too; a heading without meaning fails only once the old plan is gone
    rw [(startPlan_fails started).1]
    cases running : s.runner.isRunning with
    | false => exact rest_governs (Runner.failed_start_rests running started)
    | true =>
      have same := (Runner.start_while_running running items heading).1
      rw [same]
      exact before
  | ok u =>
    rw [(startPlan_succeeds started).1]
    intro _
    obtain ⟨runner, eq⟩ := setMode_only { s with runner := (s.runner.start items heading).state }
      .autonomous
    exact congrArg (·.mode.value.kind) eq

theorem startPlan_failed_stays_at_rest {s : Supervisor R} {items : List (PlanItem R)}
    {heading : Option R} (rest : s.runner.isRunning = false)
    (failed : (s.startPlan items heading).result ≠ .ok ()) :
    (s.startPlan items heading).state.runner.isRunning = false := by
  cases started : (s.runner.start items heading).result with
  | error why =>
    rw [(startPlan_fails started).1]
    exact Runner.failed_start_rests rest started
  | ok u => exact absurd (startPlan_succeeds started).2 failed

theorem tickPlan_at_rest {s : Supervisor R} (rest : s.runner.isRunning = false) (now : Instants R) :
    (s.tickPlan now).state.runner.isRunning = false ∧
      ((s.tickPlan now).result = .ok none ∨
        s.currentMode.kind = .autonomous ∧ (s.tickPlan now).result = .ok (some .stop)) := by
  obtain ⟨stays, result⟩ := Runner.tickAt_at_rest rest now s.sampler.slot.value
  unfold tickPlan
  split
  · rename_i kind
    refine ⟨stays, ?_⟩
    rcases result with none_left | stop_left
    · exact .inl none_left
    · exact .inr ⟨kind, stop_left⟩
  · split
    · have ticked : ∃ plan, ((s.runner.tickAt now s.sampler.slot.value).within
          fun runner => { s with runner }).result = .ok plan := by
        rcases result with none_left | stop_left
        · exact ⟨none, none_left⟩
        · exact ⟨some .stop, stop_left⟩
      obtain ⟨plan, ok⟩ := ticked
      have parts := Outcome.andThen_after_ok ok
        fun s _ => (Outcome.ok s none [] : Outcome R _ (Option (Command R)))
      rw [parts.1, parts.2]
      exact ⟨stays, .inl rfl⟩
    · exact ⟨rest, .inl rfl⟩

theorem choose_runner (s : Supervisor R) (now : Instants R) :
    (s.choose now).state.runner = (s.tickPlan now).state.runner := by
  unfold choose
  apply Outcome.andThen_keeps fun t : Supervisor R => t.runner = (s.tickPlan now).state.runner
  · rfl
  · intro plan
    split
    · rfl
    · exact Outcome.andThen_keeps (fun t : Supervisor R => t.runner = (s.tickPlan now).state.runner)
        rfl fun _ => rfl

theorem choose_stays_at_rest {s : Supervisor R} (rest : s.runner.isRunning = false)
    (now : Instants R) :
    (s.choose now).state.runner.isRunning = false := by
  rw [choose_runner]
  exact (tickPlan_at_rest rest now).1

theorem choose_governs {s : Supervisor R} (before : s.Governed) (now : Instants R) :
    (s.choose now).state.Governed := by
  cases running : s.runner.isRunning with
  | false => exact rest_governs (choose_stays_at_rest running now)
  | true =>
    obtain ⟨runner, dispatch, eq⟩ := s.choose_only now
    rw [eq]
    intro _
    exact before running

end Supervisor

theorem Dispatch.map_result [Scalar R] {d : Dispatch R} {m : Mode} {plan : Option (Command R)}
    {c : Command R} (mapped : (d.map m plan).result = .ok c) :
    c = (Dispatch.select d.speeds plan (.mode m)).1 := by
  unfold Dispatch.map at mapped
  dsimp only at mapped
  split at mapped
  · cases mapped
  · cases mapped; rfl

namespace Supervisor

variable [Scalar R]

/-- A tick that can take nothing from a plan: its command is a stop, or the one that the operator's
mode stands for by itself. -/
def TicksWithoutPlan (s : Supervisor R) (now : Instants R) : Prop :=
  ((s.tickPlan now).result = .ok none ∨ (s.tickPlan now).result = .ok (some .stop)) ∧
    ∀ choice, (s.choose now).result = .ok choice →
      choice.command = .stop ∨ s.currentMode.kind ≠ .autonomous ∧
        choice.command = (Dispatch.select s.dispatch.speeds none (.mode s.currentMode)).1

theorem rest_ticks_without_plan {s : Supervisor R} (rest : s.runner.isRunning = false)
    (now : Instants R) :
    s.TicksWithoutPlan now := by
  have plan := (tickPlan_at_rest rest now).2
  refine ⟨plan.imp id And.right, ?_⟩
  intro choice chosen
  obtain ⟨command, ticked, mapped, _⟩ := Outcome.andThen_succeeds chosen
  obtain ⟨runner, eq⟩ := s.tickPlan_only now
  rw [eq] at mapped
  dsimp only at mapped
  split at mapped
  · cases mapped
    exact .inl rfl
  · obtain ⟨c, selected, last, _⟩ := Outcome.andThen_succeeds mapped
    cases last
    have command_eq := Dispatch.map_result selected
    by_cases kind : s.currentMode.kind = .autonomous
    · left
      rcases plan with none_left | ⟨_, stop_left⟩
      · rw [none_left] at ticked
        cases ticked
        simpa [Dispatch.select, Dispatch.commandFor, kind] using command_eq
      · rw [stop_left] at ticked
        cases ticked
        simpa [Dispatch.select, Dispatch.commandFor, kind] using command_eq
    · right
      rcases plan with none_left | ⟨autonomous, _⟩
      · rw [none_left] at ticked
        cases ticked
        exact ⟨kind, command_eq⟩
      · exact absurd autonomous kind

theorem obey_governs {s : Supervisor R} (c : Call R) (before : s.Governed) :
    (s.obey c).Governed := by
  cases c with
  | setMode m => exact setMode_governs m before
  | startPlan items heading => exact startPlan_governs items heading before
  | cancelPlan => exact rest_governs s.runner.cancel_rests
  | stop => exact before
  | hear p => exact before

end Supervisor

/-- What brings a plan to rest: another mode, a cancel, a failure, or the cleanup. -/
def Deed.EndsPlan : Deed R → Prop
  | .call (.setMode m) => m.kind ≠ .autonomous
  | .call .cancelPlan => True
  | .fail .. => True
  | .windDown .. => True
  | _ => False

variable [Scalar R]

namespace Watch

def Starts (w : Watch R) : Deed R → Prop
  | .call (.startPlan items heading) => (w.supervisor.startPlan items heading).result = .ok ()
  | _ => False

def StartsNone : Watch R → List (Deed R) → Prop
  | _, [] => True
  | w, d :: rest => ¬ w.Starts d ∧ (w.step d).StartsNone rest

theorem governed_step (w : Watch R) (d : Deed R) (before : w.supervisor.Governed) :
    (w.step d).supervisor.Governed := by
  cases d with
  | call c => exact Supervisor.obey_governs c before
  | beginTick now =>
    exact w.beginTick_keeps now (Supervisor.choose_governs before now) Supervisor.wire_governs
      fun _ m => Supervisor.settle_governs m
  | endTick index reply =>
    exact w.endTick_keeps index reply before (fun _ _ kept => kept)
      fun _ m => Supervisor.settle_governs m
  | fail m k why => exact Supervisor.rest_governs (Supervisor.trip_rests m w.supervisor k why)
  | windDown m e => exact Supervisor.rest_governs (Supervisor.windDown_rests m w.supervisor e)
  | conclude m e =>
    obtain ⟨activated, told, eq⟩ := w.supervisor.transition_only (m.told .stopped) .stopped
    change (w.supervisor.transition (m.told .stopped) .stopped).1.Governed
    rw [eq]
    exact before

theorem governed_after {w : Watch R} (before : w.supervisor.Governed) (deeds : List (Deed R)) :
    (w.after deeds).supervisor.Governed :=
  after_keeps (P := fun w => w.supervisor.Governed) before fun w d _ => governed_step w d

theorem rest_step {w : Watch R} {d : Deed R} (rest : w.supervisor.runner.isRunning = false)
    (starts : ¬ w.Starts d) : (w.step d).supervisor.runner.isRunning = false := by
  cases d with
  | call c =>
    cases c with
    | setMode m => exact Supervisor.setMode_stays_at_rest m rest
    | startPlan items heading => exact Supervisor.startPlan_failed_stays_at_rest rest starts
    | cancelPlan => exact w.supervisor.runner.cancel_rests
    | stop => exact rest
    | hear p => exact rest
  | beginTick now =>
    exact w.beginTick_keeps now (P := fun s => s.runner.isRunning = false)
      (Supervisor.choose_stays_at_rest rest now) Supervisor.wire_stays_at_rest
      Supervisor.settle_stays_at_rest
  | endTick index reply =>
    exact w.endTick_keeps index reply (P := fun s => s.runner.isRunning = false) rest
      (fun _ _ kept => kept) Supervisor.settle_stays_at_rest
  | fail m k why => exact Supervisor.trip_rests m w.supervisor k why
  | windDown m e => exact Supervisor.windDown_rests m w.supervisor e
  | conclude m e =>
    obtain ⟨activated, told, eq⟩ := w.supervisor.transition_only (m.told .stopped) .stopped
    change (w.supervisor.transition (m.told .stopped) .stopped).1.runner.isRunning = false
    rw [eq]
    exact rest

theorem rest_after (deeds : List (Deed R)) {w : Watch R}
    (rest : w.supervisor.runner.isRunning = false) (none_starts : w.StartsNone deeds) :
    (w.after deeds).supervisor.runner.isRunning = false := by
  induction deeds generalizing w with
  | nil => exact rest
  | cons d later ih => exact ih (rest_step rest none_starts.1) none_starts.2

theorem ending_rests {w : Watch R} {ending : Deed R} (before : w.supervisor.Governed)
    (ends : ending.EndsPlan) : (w.step ending).supervisor.runner.isRunning = false := by
  cases ending with
  | call c =>
    cases c with
    | setMode m => exact Supervisor.setMode_rests before ends
    | cancelPlan => exact w.supervisor.runner.cancel_rests
    | startPlan items heading => exact False.elim ends
    | stop => exact False.elim ends
    | hear p => exact False.elim ends
  | fail m k why => exact Supervisor.trip_rests m w.supervisor k why
  | windDown m e => exact Supervisor.windDown_rests m w.supervisor e
  | beginTick now => exact False.elim ends
  | endTick index reply => exact False.elim ends
  | conclude m e => exact False.elim ends

def fresh (timing : Timing R) (dispatch : Dispatch R) (runner : Runner R)
    (listeners : List Listener) : Watch R :=
  ⟨.create timing dispatch runner listeners, []⟩

theorem plan_drives_only_in_its_mode {gains : Gains R} {source : String} {runner : Runner R}
    (made : Runner.create gains source = .ok runner) (timing : Timing R) (dispatch : Dispatch R)
    (listeners : List Listener) (deeds : List (Deed R)) :
    let w := (fresh timing dispatch runner listeners).after deeds
    (w.supervisor.runner.isRunning = true → w.supervisor.currentMode.kind = .autonomous) ∧
      ∀ ending : Deed R, ending.EndsPlan → ∀ later, (w.step ending).StartsNone later →
        let v := (w.step ending).after later
        v.supervisor.runner.isRunning = false ∧ ∀ now, v.supervisor.TicksWithoutPlan now := by
  intro w
  have first : (fresh timing dispatch runner listeners).supervisor.Governed :=
    Supervisor.rest_governs (Runner.create_rests made)
  have governed : w.supervisor.Governed := governed_after first deeds
  refine ⟨governed, ?_⟩
  intro ending ends later none_starts v
  have rest := rest_after later (ending_rests governed ends) none_starts
  exact ⟨rest, Supervisor.rest_ticks_without_plan rest⟩

/-- A travel under way is left for a direction; the autonomous mode, selected again, does not bring it
back. -/
theorem reselected_mode_leaves_plan_at_rest :
    let driving : List (Deed Float) :=
      [.call (.startPlan [.segment (.travel 10)] none), .call (.hear ⟨0, 0, 0, 0, 0⟩),
        .beginTick (.frozen 0), .endTick 0 .ok]
    let ending : Deed Float := .call (.setMode (.teleop .forward))
    let later : List (Deed Float) := [.beginTick (.frozen 0.01), .call (.setMode .autonomous)]
    let w := (fresh .standard ⟨.standard, [], 0⟩ .standard [.recorder]).after driving
    let v := (w.step ending).after later
    Runner.create .standard "elapsed" = .ok .standard ∧ w.supervisor.runner.isRunning = true ∧
      ending.EndsPlan ∧ (w.step ending).StartsNone later ∧
      v.supervisor.currentMode.kind = .autonomous ∧ v.supervisor.TicksWithoutPlan (.frozen 0.02) := by
  intro driving ending later w v
  have made : Runner.create .standard "elapsed" = .ok .standard := by rfl
  have ends : ending.EndsPlan := by intro same; cases same
  have starts : (w.step ending).StartsNone later := ⟨id, id, trivial⟩
  have driven := plan_drives_only_in_its_mode made .standard ⟨.standard, [], 0⟩ [.recorder] driving
  have driving_now : w.supervisor.runner.isRunning = true := by decide +kernel
  have reselected : v.supervisor.currentMode.kind = .autonomous := by decide +kernel
  exact ⟨made, driving_now, ends, starts, reselected,
    (driven.2 ending ends later starts).2 (.frozen 0.02)⟩

end Watch
end Quadruped
