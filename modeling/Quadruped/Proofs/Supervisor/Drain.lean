import Quadruped.Proofs.Supervisor.Latch
import Quadruped.Proofs.Supervisor.ModeRace

/-!
How a plan leaves a supervisor that it has ended in. The last stop of a cancelled plan is taken by the
next tick, before anything of that tick can fail; the mode of a plan that is over is left at the end of
the tick.
-/
namespace Quadruped

variable {R : Type}

namespace Runner

variable {r : Runner R}

theorem finished_spent (finished : r.isFinished = true) : r.Spent := by
  refine ⟨finished_rests finished, ?_⟩
  intro cancelled
  simpa [isFinished, succeeded, cancelled] using finished

theorem cancel_keeps_finished (finished : r.isFinished = true) : r.cancel.1 = r := by
  rw [cancel_at_rest (finished_rests finished)]

variable [Scalar R]

theorem tickAt_keeps_finished (finished : r.isFinished = true) (now : Instants R)
    (sample : Option (Pose R)) :
    (r.tickAt now sample).state = r :=
  (tickAt_spent (finished_spent finished) now sample).1

theorem tickAt_finishes_cancelled (cancelled : r.phase = .cancelled) (now : Instants R)
    (sample : Option (Pose R)) : (r.tickAt now sample).state.isFinished = true := by
  have owes : r.Cancelled r.stopPending := ⟨cancelled, rfl⟩
  exact cancelled_finished (tickAt_cancelled owes now sample).1

theorem failed_start_keeps_finished (finished : r.isFinished = true) {items : List (PlanItem R)}
    {heading : Option R} {why : Fault R} (failed : (r.start items heading).result = .error why) :
    (r.start items heading).state.isFinished = true := by
  have attempt := r.start_attempt items heading
  rw [failed] at attempt
  generalize (r.start items heading).state = s at attempt ⊢
  cases attempt with
  | rejected | occupied => exact finished
  | lost plan passed rest h faces nowhere =>
    cases phase : r.phase <;> simp_all [isFinished, succeeded, reset]

omit [Scalar R] in
theorem running_not_finished (running : r.isRunning = true) : r.isFinished = false := by
  cases finished : r.isFinished with
  | false => rfl
  | true =>
    rw [finished_rests finished] at running
    cases running

theorem driven_finished {s : Runner R} {t : Instants R} {pose : Pose R} {given : Option (Command R)}
    (driven : Driven r t pose s (.ok given)) (running : r.isRunning = true)
    (finished : s.isFinished = true) : given = none ∨ given = some .stop := by
  have goes_on (same : s.phase = r.phase) : given = none ∨ given = some .stop := by
    have runs : s.isRunning = true := by
      rw [isRunning, same]
      exact running
    rw [running_not_finished runs] at finished
    cases finished
  cases driven with
  | passes => exact .inl rfl
  | arrives => exact .inr rfl
  | completes => exact .inr rfl
  | turns h rest s plan on => cases on <;> exact goes_on rfl
  | travels d rest s plan on => cases on <;> exact goes_on rfl

theorem tickAt_finished_gives_stop {now : Instants R} {sample : Option (Pose R)}
    {given : Option (Command R)}
    (gave : (r.tickAt now sample).result = .ok given)
    (finished : (r.tickAt now sample).state.isFinished = true) :
    given = none ∨ given = some .stop := by
  have ticked := tickAt_ticked r now sample
  rw [gave] at ticked
  generalize (r.tickAt now sample).state = s at finished ticked
  cases ticked with
  | drains => exact .inr rfl
  | rests => exact .inl rfl
  | pauses sample running =>
    rw [running_not_finished running] at finished
    cases finished
  | waits running =>
    rw [running_not_finished (r := { r with pauseUntil := none }) running] at finished
    cases finished
  | drives pose running ready s given driven => exact driven_finished driven running finished

end Runner

namespace Supervisor

variable [Scalar R] {s : Supervisor R}

theorem choose_drains (cancelled : s.runner.phase = .cancelled) (now : Instants R) :
    (s.choose now).state.runner.isFinished = true := by
  have drained := Runner.tickAt_finishes_cancelled cancelled now s.sampler.slot.value
  rw [choose_runner]
  unfold tickPlan
  split
  · exact drained
  · exact Outcome.andThen_keeps (fun t : Supervisor R => t.runner.isFinished = true) drained
      fun _ => drained

theorem choose_keeps_finished (finished : s.runner.isFinished = true) (now : Instants R) :
    (s.choose now).state.runner = s.runner := by
  have same := Runner.tickAt_keeps_finished finished now s.sampler.slot.value
  rw [choose_runner]
  unfold tickPlan
  split
  · exact same
  · split
    · exact Outcome.andThen_keeps (fun t : Supervisor R => t.runner = s.runner) same fun _ => same
    · rfl

omit [Scalar R] in
theorem finished_abiding : Abiding fun s : Supervisor R => s.runner.isFinished = true where
  same s t _ _ runner _ finished := by rw [runner]; exact finished
  cancels s finished := by
    change s.runner.cancel.1.isFinished = true
    rw [Runner.cancel_keeps_finished finished]
    exact finished

theorem finished_lasting : Lasting fun s : Supervisor R => s.runner.isFinished = true := by
  apply finished_abiding.lasting
  intro s now finished
  rw [choose_keeps_finished finished]
  exact finished

theorem obey_keeps_finished (finished : s.runner.isFinished = true) (c : Call R)
    (idle : ∀ items heading, c = .startPlan items heading →
      (s.startPlan items heading).result ≠ .ok ()) : (s.obey c).runner.isFinished = true := by
  cases c with
  | startPlan items heading =>
    cases started : (s.runner.start items heading).result with
    | ok u => exact absurd (startPlan_succeeds started).2 (idle items heading rfl)
    | error why =>
      change (s.startPlan items heading).state.runner.isFinished = true
      rw [(startPlan_fails started).1]
      exact Runner.failed_start_keeps_finished finished started
  | setMode m => exact finished_abiding.setMode m finished
  | cancelPlan => exact finished_abiding.cancels s finished
  | stop => exact finished
  | hear p => exact finished

def Vacated (s : Supervisor R) : Prop :=
  s.currentMode.kind = .autonomous → s.runner.isFinished = false

omit [Scalar R] in
theorem settle_runner (s : Supervisor R) (m : Mode) : (s.settle m).1.runner = s.runner := by
  obtain ⟨mode, eq⟩ := s.settle_only m
  rw [eq]

omit [Scalar R] in
theorem settle_vacates {m : Mode} (same : s.currentMode = m) :
    (s.settle m).1.Vacated ∧
      (m.kind = .autonomous → s.runner.isFinished = true → (s.settle m).1.currentMode = .idle) := by
  have settled := s.settle_mode m
  constructor
  · intro kind
    rw [settle_runner]
    cases finished : s.runner.isFinished with
    | false => rfl
    | true =>
      rw [settled] at kind
      split at kind
      · cases kind
      · rename_i stays
        rw [same] at kind
        exact absurd ⟨same, kind, finished⟩ stays
  · intro kind finished
    rw [settled, if_pos ⟨same, kind, finished⟩]

theorem choose_finished_stops {now : Instants R} {choice : Choice R}
    (autonomous : s.currentMode.kind = .autonomous) (chosen : (s.choose now).result = .ok choice)
    (finished : (s.choose now).state.runner.isFinished = true) : choice.command = .stop := by
  by_cases failed : s.status = .failsafe
  · exact choose_after_failure failed chosen
  · obtain ⟨given, ticked, command⟩ := choose_autonomous autonomous failed chosen
    rw [choose_runner, (tickPlan_autonomous autonomous).1] at finished
    rcases Runner.tickAt_finished_gives_stop ticked finished with rfl | rfl
    · exact command
    · exact command

end Supervisor

namespace Watch

variable [Scalar R] {w : Watch R}

theorem step_keeps_finished (finished : w.supervisor.runner.isFinished = true) {d : Deed R}
    (idle : ¬ w.Starts d) : (w.step d).supervisor.runner.isFinished = true := by
  apply step_lasting Supervisor.finished_lasting w finished
  intro c same
  refine Supervisor.obey_keeps_finished finished c ?_
  rintro items heading rfl started
  subst same
  exact idle started

theorem after_keeps_finished (deeds : List (Deed R)) {w : Watch R}
    (finished : w.supervisor.runner.isFinished = true) (idle : w.StartsNone deeds) :
    (w.after deeds).supervisor.runner.isFinished = true := by
  induction deeds generalizing w with
  | nil => exact finished
  | cons d rest ih => exact ih (step_keeps_finished finished idle.1) idle.2

theorem beginTick_drains (cancelled : w.supervisor.runner.phase = .cancelled) (now : Instants R) :
    (w.step (.beginTick now)).supervisor.runner.isFinished = true :=
  w.beginTick_keeps now (Supervisor.choose_drains cancelled now) Supervisor.finished_lasting.wires
    Supervisor.finished_lasting.settles

/-- A tick that nothing overtakes, and whose command the robot takes. -/
def tickAlone (w : Watch R) (now : Instants R) : Watch R :=
  (w.step (.beginTick now)).step (.endTick w.underWay.length .ok)

theorem tickAlone_settles {now : Instants R} {choice : Supervisor.Choice R}
    (chosen : (w.supervisor.choose now).result = .ok choice) :
    ∃ s : Supervisor R, (w.tickAlone now).supervisor = (s.settle choice.mode).1 ∧
      s.currentMode = choice.mode ∧ s.runner = (w.supervisor.choose now).state.runner := by
  have read : (w.supervisor.choose now).state.currentMode = choice.mode := by
    obtain ⟨runner, dispatch, only⟩ := w.supervisor.choose_only now
    rw [only, Supervisor.choose_mode chosen]
    rfl
  obtain ⟨latched, wired⟩ := (w.supervisor.choose now).state.wire_only choice.command
  rcases w.beginTick_cases now with ⟨why, failed, _⟩ | ⟨other, same, ⟨_, eq⟩ | ⟨_, eq⟩⟩
  · rw [chosen] at failed
    cases failed
  · rw [chosen] at same
    cases same
    change w.step (.beginTick now) = _ at eq
    have last : (w.step (.beginTick now)).underWay = w.underWay ++ [choice] := by rw [eq]
    refine ⟨_, endTick_last last, ?_, ?_⟩
    · rw [eq, wired]
      exact read
    · rw [eq, wired]
      rfl
  · rw [chosen] at same
    cases same
    change w.step (.beginTick now) = _ at eq
    refine ⟨((w.supervisor.choose now).state.wire choice.command).1, ?_, ?_, ?_⟩
    · rw [tickAlone, eq]
      simp [step, endTick]
    · rw [wired]
      exact read
    · rw [wired]

end Watch

theorem Run.nextTick_drains [Scalar R] {m : Run.Moment R} {s : Supervisor R} {k : Keeper R}
    (running : s.running = true) (cancelled : s.runner.phase = .cancelled) :
    (Run.nextTick m s k).supervisor.runner.isFinished = true := by
  have drained := Supervisor.choose_drains cancelled m.plan
  have lasting := Supervisor.finished_lasting (R := R)
  rcases Run.nextTick_cases m s k with
    ⟨idle, _⟩ | ⟨why, notes, _, _, eq⟩ | ⟨choice, notes, _, _, eq | eq⟩
  · rw [running] at idle
    cases idle
  · rw [eq]
    exact lasting.trip m k why drained
  · rw [eq]
    exact lasting.wires _ choice.command drained
  · rw [eq]
    exact lasting.settles _ choice.mode (lasting.wires _ choice.command drained)

theorem Supervisor.finished_ends {s : Supervisor R} (finished : s.runner.isFinished = true) :
    s.planEnded = true := by
  simp [planEnded, finished]

namespace Watch

variable [Scalar R]

/-- After a cancel one tick ends the plan, in every mode and status, and even if the tick fails; one who
waits for the plan finds it ended until a start succeeds. A tick that returns leaves the mode of a plan
that is over. -/
theorem ended_plan_is_drained_within_a_tick (w : Watch R) (now : Instants R) (c : Course R)
    (m : Run.Moment R) (reply : Reply R) :
    (w.supervisor.runner.phase = .cancelled → ∀ later, (w.step (.beginTick now)).StartsNone later →
      let v := (w.step (.beginTick now)).after later
      v.supervisor.runner.isFinished = true ∧ v.supervisor.planEnded = true) ∧
    (∀ choice, (w.supervisor.choose now).result = .ok choice →
      let done := (w.tickAlone now).supervisor
      (done.currentMode.kind = .autonomous → done.runner.isFinished = false) ∧
        (w.supervisor.currentMode.kind = .autonomous → done.runner.isFinished = true →
          choice.command = .stop ∧ done.currentMode = .idle)) ∧
    (c.supervisor.runner.phase = .cancelled →
      (Run.ticksFrom m c.supervisor c.run reply).isSome = true →
        let ticked := (c.step (.answer m reply)).supervisor
        ticked.runner.isFinished = true ∧ ticked.planEnded = true) := by
  refine ⟨?_, ?_, ?_⟩
  · intro cancelled later idle v
    have finished := after_keeps_finished later (beginTick_drains cancelled now) idle
    exact ⟨finished, Supervisor.finished_ends finished⟩
  · intro choice chosen done
    obtain ⟨s, settled, mode, runner⟩ := tickAlone_settles chosen
    obtain ⟨vacated, leaves⟩ := Supervisor.settle_vacates mode
    change (w.tickAlone now).supervisor.Vacated ∧ _
    refine ⟨settled ▸ vacated, ?_⟩
    intro kind finished
    change (w.tickAlone now).supervisor.runner.isFinished = true at finished
    rw [settled, Supervisor.settle_runner] at finished
    rw [runner] at finished leaves
    refine ⟨Supervisor.choose_finished_stops kind chosen finished, ?_⟩
    change (w.tickAlone now).supervisor.currentMode = .idle
    rw [settled]
    rw [← Supervisor.choose_mode chosen] at kind
    exact leaves kind finished
  · intro cancelled begins ticked
    obtain ⟨s, ticks⟩ := Option.isSome_iff_exists.mp begins
    obtain ⟨⟨k, notes, resumed⟩, running, runner, _⟩ := Run.tick_turn ticks
    have finished : ticked.runner.isFinished = true := by
      change (c.run.resume m c.supervisor reply).supervisor.runner.isFinished = true
      rw [resumed]
      exact Run.nextTick_drains running (runner ▸ cancelled)
    exact ⟨finished, Supervisor.finished_ends finished⟩

/-- A travel is left for a direction, and the tick after that fails in the dispatch. Another travel is
as short as one tick. A third is cancelled in a run, where it is in failsafe. -/
theorem failing_tick_drains_cancelled_travel :
    let travel (d : Float) : List (Deed Float) :=
      [.call (.startPlan [.segment (.travel d)] none), .call (.hear ⟨0, 0, 0, 0, 0⟩),
        .beginTick (.frozen 0), .endTick 0 .ok]
    let first := fresh .standard ⟨.standard, [2], 0⟩ .standard [.recorder]
    let left := (first.after (travel 10)).step (.call (.setMode (.teleop .forward)))
    let later : List (Deed Float) := [.call (.setMode .autonomous), .beginTick (.frozen 2)]
    let short := (fresh .standard ⟨.standard, [], 0⟩ .standard [.recorder]).after (travel 0.01)
    let c := (Course.begin (.standard 0 [1]) "sim0").after
      [.answer (.frozen 0 true) .ok, .answer (.frozen 0 true) .ok, .answer (.frozen 0 true) .ok,
        .call (.startPlan [.segment (.travel 10)] none), .call .cancelPlan]
    let ticked := (c.step (.answer (.frozen 0.01 true) .ok)).supervisor
    (left.supervisor.runner.phase = .cancelled ∧ left.supervisor.runner.isFinished = false ∧
        (left.supervisor.choose (.frozen 1)).result = .error (.breakdown .map) ∧
        ((left.step (.beginTick (.frozen 1))).after later).supervisor.planEnded = true) ∧
      ((short.tickAlone (.frozen 1)).supervisor.runner.succeeded = true ∧
        (short.tickAlone (.frozen 1)).supervisor.currentMode = .idle) ∧
      c.supervisor.status = .failsafe ∧ c.supervisor.runner.isFinished = false ∧
        ticked.planEnded = true := by
  intro travel first left later short c ticked
  have cancelled : left.supervisor.runner.phase = .cancelled := by decide +kernel
  have law := ended_plan_is_drained_within_a_tick left (.frozen 1) c (.frozen 0.01 true) .ok
  have drained := (law.1 cancelled later ⟨id, id, trivial⟩).2
  have chosen : (short.supervisor.choose (.frozen 1)).result = .ok ⟨.autonomous, .stop⟩ := by
    decide +kernel
  have completed : (short.tickAlone (.frozen 1)).supervisor.runner.isFinished = true := by
    decide +kernel
  have returned :=
    (ended_plan_is_drained_within_a_tick short (.frozen 1) c (.frozen 0.01 true) .ok).2.1 _ chosen
  have mode := (returned.2 (by decide +kernel) completed).2
  have run := law.2.2 (by decide +kernel) (by decide +kernel)
  exact ⟨⟨cancelled, by decide +kernel, by decide +kernel, drained⟩, ⟨by decide +kernel, mode⟩,
    by decide +kernel, by decide +kernel, run.2⟩

end Watch
end Quadruped
