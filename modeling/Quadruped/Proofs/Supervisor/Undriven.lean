import Quadruped.Proofs.Plan.Cancel
import Quadruped.Proofs.Supervisor.Failsafe
import Quadruped.Proofs.Supervisor.PlanMode

/-!
What drives a plan on. A plan comes nearer to its end in its own ticks only; every other turn of a run
leaves its runner as it is, or brings it to rest.
-/
namespace Quadruped

variable {R : Type}

/-- What happens to a runner that is not driven on: it may come to rest, but neither begins to run nor
comes to the end of its plan. -/
structure Runner.Eases (before after : Runner R) : Prop where
  running : after.isRunning = true → before.isRunning = true
  succeeded : after.succeeded = true → before.succeeded = true

namespace Runner

theorem Eases.refl (r : Runner R) : r.Eases r := ⟨id, id⟩

theorem Eases.trans {r s t : Runner R} (first : r.Eases s) (second : s.Eases t) : r.Eases t :=
  ⟨first.running ∘ second.running, first.succeeded ∘ second.succeeded⟩

theorem same_phase_eases {r s : Runner R} (same : s.phase = r.phase) : r.Eases s := by
  constructor <;> simp [isRunning, succeeded, same]

theorem cancel_eases (r : Runner R) : r.Eases r.cancel.1 := by
  unfold cancel
  split
  · constructor <;> intro impossible <;> cases impossible
  · exact .refl r

end Runner

/-- One supervisor as another has left it without a tick of the plan. -/
structure Supervisor.Undriven (before after : Supervisor R) : Prop where
  eases : before.runner.Eases after.runner
  calm : after.status = .failsafe → before.status = .failsafe ∨ after.runner.isRunning = false

namespace Run

variable {m : Moment R} {s : Supervisor R}

theorem windDown_undriven (m : Moment R) (s : Supervisor R) (e : Ending R) :
    s.Undriven (windDown m s e).supervisor := by
  refine ⟨?_, fun _ => .inr (Supervisor.windDown_rests m s e)⟩
  rcases windDown_cases m s e with ⟨_, _, _, eq⟩ | ⟨_, _, _, eq⟩
  · rw [eq]
    exact s.runner.cancel_eases
  · obtain ⟨activated, told, only⟩ := s.stop.cancelPlan.1.transition_only (m.told .stopped) .stopped
    rw [eq, only]
    exact s.runner.cancel_eases

theorem kept_undriven {t : Supervisor R} (runner : t.runner = s.runner)
    (status : t.status = .failsafe → s.status = .failsafe) : s.Undriven t :=
  ⟨runner ▸ .refl _, fun failed => .inl (status failed)⟩

theorem trip_undriven (m : Moment R) (s : Supervisor R) (k : Keeper R) (why : Fault R) :
    s.Undriven (trip m s k why).supervisor := by
  refine ⟨?_, fun _ => .inr (Supervisor.trip_rests m s k why)⟩
  obtain ⟨activated, told, eq⟩ := Supervisor.transition_only
    { s with runner := s.runner.cancel.1, mode := s.mode.set .idle } (m.told .failsafe) .failsafe
  have runner : (trip m s k why).supervisor.runner = s.runner.cancel.1 := congrArg (·.runner) eq
  rw [runner]
  exact s.runner.cancel_eases

theorem undriven_of_kept {t u : Supervisor R} (undriven : t.Undriven u) (runner : t.runner = s.runner)
    (status : t.status = .failsafe → s.status = .failsafe) : s.Undriven u :=
  ⟨runner ▸ undriven.eases, fun failed => (undriven.calm failed).imp status id⟩

theorem transition_kept (s : Supervisor R) (now : R) (new : Status) :
    (s.transition now new).1.runner = s.runner := by
  obtain ⟨activated, told, eq⟩ := s.transition_only now new
  rw [eq]

theorem balance_undriven (m : Moment R) (s : Supervisor R) (n : Nat) :
    s.Undriven (balance m s n).supervisor := by
  rcases balance_cases m s n with ⟨_, eq⟩ | ⟨left, _, _, eq⟩ | ⟨_, eq⟩
  · rw [eq]; exact kept_undriven rfl id
  · rw [eq]; exact kept_undriven rfl id
  · rw [eq]; exact windDown_undriven m s _

theorem stand_undriven (m : Moment R) (s : Supervisor R) (n : Nat) :
    s.Undriven (stand m s n).supervisor := by
  rcases stand_cases m s n with ⟨_, notes, eq⟩ | ⟨left, _, _, eq⟩ | ⟨_, eq⟩
  · rw [eq]; exact balance_undriven m s _
  · rw [eq]; exact kept_undriven rfl id
  · rw [eq]; exact windDown_undriven m s _

theorem conclude_undriven (m : Moment R) (s : Supervisor R) (e : Ending R) :
    s.Undriven (conclude m s e).supervisor := by
  refine kept_undriven (transition_kept s (m.told .stopped) .stopped) ?_
  intro failed
  cases (s.transition_status (m.told .stopped) .stopped).symm.trans failed

end Run

namespace Supervisor

theorem setMode_undriven (s : Supervisor R) (m : Mode) : s.Undriven (s.setMode m).1 := by
  rcases s.setMode_cases m with ⟨eq, _⟩ | ⟨eq, _⟩
  · rw [eq]; exact ⟨.refl _, .inl⟩
  · rw [eq]; exact ⟨s.runner.cancel_eases, .inl⟩

theorem wire_needed {s : Supervisor R} {c : Command R} (free : c = .stop ∨ ∃ v, c = .velocity v) :
    (s.wire c).2 = true := by
  rcases free with rfl | ⟨v, rfl⟩ <;> rfl

theorem wire_runner (s : Supervisor R) (c : Command R) : (s.wire c).1.runner = s.runner := by
  obtain ⟨latched, eq⟩ := s.wire_only c
  rw [eq]

def TicksPlan (s : Supervisor R) : Prop :=
  s.currentMode.kind = .autonomous ∧ s.runner.isRunning = true

instance (s : Supervisor R) : Decidable s.TicksPlan := by
  unfold TicksPlan
  infer_instance

end Supervisor

variable [Scalar R]

theorem Runner.tickAt_at_rest_eases {r : Runner R} (rest : r.isRunning = false) (now : Instants R)
    (sample : Option (Pose R)) : r.Eases (r.tickAt now sample).state := by
  have ticked := tickAt_ticked r now sample
  generalize (r.tickAt now sample).state = s,
    (r.tickAt now sample).result = given at ticked ⊢
  cases ticked with
  | drains | rests => exact same_phase_eases rfl
  | pauses sample running | waits running | drives pose running =>
    rw [rest] at running
    cases running

namespace Supervisor

theorem tickPlan_eases {s : Supervisor R} (foreign : ¬ s.TicksPlan) (now : Instants R) :
    s.runner.Eases (s.tickPlan now).state.runner := by
  unfold tickPlan
  split
  · rename_i autonomous
    have rest : s.runner.isRunning = false := by
      simpa [TicksPlan, autonomous] using foreign
    exact Runner.tickAt_at_rest_eases rest now s.sampler.slot.value
  · split
    · rename_i cancelled
      have rest : s.runner.isRunning = false := by simp [Runner.isRunning, cancelled]
      have ticked := Runner.tickAt_at_rest_eases rest now s.sampler.slot.value
      exact Outcome.andThen_keeps (fun t : Supervisor R => s.runner.Eases t.runner) ticked
        fun _ => ticked
    · exact .refl s.runner

theorem failed_start_undriven {s : Supervisor R} {items : List (PlanItem R)} {heading : Option R}
    {why : Fault R} (failed : (s.startPlan items heading).result = .error why) :
    s.Undriven (s.startPlan items heading).state := by
  cases started : (s.runner.start items heading).result with
  | ok u => cases failed.symm.trans (startPlan_succeeds started).2
  | error fault =>
    rw [(startPlan_fails started).1]
    refine ⟨?_, .inl⟩
    have attempt := s.runner.start_attempt items heading
    rw [started] at attempt
    generalize (s.runner.start items heading).state = r at attempt ⊢
    cases attempt with
    | rejected | occupied | lost => exact Runner.same_phase_eases rfl

section
variable {s : Supervisor R} {now : Instants R}

theorem tickPlan_autonomous (autonomous : s.currentMode.kind = .autonomous) :
    (s.tickPlan now).state.runner = (s.runner.tickAt now s.sampler.slot.value).state ∧
      (s.tickPlan now).result = (s.runner.tickAt now s.sampler.slot.value).result := by
  unfold tickPlan
  rw [if_pos autonomous]
  exact ⟨rfl, rfl⟩

theorem choose_autonomous {choice : Choice R} (autonomous : s.currentMode.kind = .autonomous)
    (outside : s.status ≠ .failsafe) (chosen : (s.choose now).result = .ok choice) :
    ∃ x, (s.runner.tickAt now s.sampler.slot.value).result = .ok x ∧
      choice.command = x.getD .stop := by
  obtain ⟨x, ticked, rest, _⟩ := Outcome.andThen_succeeds chosen
  refine ⟨x, (tickPlan_autonomous autonomous).2.symm.trans ticked, ?_⟩
  obtain ⟨runner, eq⟩ := s.tickPlan_only now
  rw [eq, if_neg outside] at rest
  obtain ⟨c, mapped, last, _⟩ := Outcome.andThen_succeeds rest
  cases last
  have selected := Dispatch.map_result mapped
  simpa [Dispatch.select, Dispatch.commandFor, autonomous] using selected

end

end Supervisor

namespace Run

variable {m : Moment R} {s : Supervisor R}

def ticksFrom (m : Moment R) (s : Supervisor R) : Run R → Reply R → Option (Supervisor R)
  | .pacing _, .ok => if s.running then some s else none
  | .halting, .ok =>
    let active := (s.transition (m.told .active) .active).1
    if s.running then
      match Keeper.create active.timing.controlPeriod active.timing.lagWarning m.opened with
      | .ok _ => some active
      | .error _ => none
    else none
  | _, _ => none

theorem settleTick_runner (m : Moment R) (s : Supervisor R) (choice : Supervisor.Choice R)
    (k : Keeper R) : (settleTick m s choice k).supervisor.runner = s.runner := by
  obtain ⟨mode, eq⟩ := s.settle_only choice.mode
  exact congrArg (·.runner) eq

theorem activate_without_tick (idle : ticksFrom m s .halting .ok = none) :
    (∃ e, activate m s = windDown m s e) ∨
      ∃ e notes, activate m s = (windDown m (s.transition (m.told .active) .active).1 e).after notes := by
  unfold activate
  unfold ticksFrom at idle
  dsimp only at idle ⊢
  split
  · rename_i running
    rw [if_pos running] at idle
    split
    · rename_i why _
      exact .inr ⟨.raised why, (s.transition (m.told .active) .active).2, rfl⟩
    · rename_i k made
      simp [made] at idle
  · exact .inl ⟨.returned, rfl⟩

theorem undriven_turn {run : Run R} {reply : Reply R} {p : Progress R}
    (idle : ticksFrom m s run reply = none) (turn : Turn m s run reply p) :
    s.Undriven p.supervisor := by
  cases turn with
  | begins | neverBegins | staysOver | dwells | paces | leaves | abandons => exact kept_undriven rfl id
  | connects i notes =>
    refine undriven_of_kept (stand_undriven m _ _)
      (transition_kept s (m.told .starting) .starting) ?_
    intro failed
    cases (s.transition_status (m.told .starting) .starting).symm.trans failed
  | stands n => exact stand_undriven m s n
  | balances p n h => exact balance_undriven m s n
  | halts notes =>
    change s.Undriven (activate m s).supervisor
    rcases activate_without_tick idle with ⟨e, eq⟩ | ⟨e, more, eq⟩
    · rw [eq]; exact windDown_undriven m s e
    · rw [eq]
      refine undriven_of_kept (windDown_undriven m _ e)
        (transition_kept s (m.told .active) .active) ?_
      intro failed
      cases (s.transition_status (m.told .active) .active).symm.trans failed
  | sent choice k notes =>
    refine kept_undriven (settleTick_runner m _ choice k) ?_
    intro failed
    exact (settleTick_status m (s.record choice.command).1 choice k).symm.trans failed
  | trips choice k why => exact trip_undriven m s k why
  | ticks k =>
    unfold ticksFrom at idle
    cases running : s.running with
    | false =>
      simp only [nextTick, running]
      exact windDown_undriven m s .returned
    | true => simp [running] at idle
  | parkingFails e why => exact conclude_undriven m s e
  | concludes e => exact conclude_undriven m s e
  | leavingFails e why => exact conclude_undriven m s e
  | closes run reply e notes h failed => exact windDown_undriven m s e

theorem running_command_was_taken {choice : Supervisor.Choice R} {k : Keeper R} {reply : Reply R}
    {p : Progress R} (turn : Turn m s (.sending choice k) reply p)
    (running : p.supervisor.runner.isRunning = true) : reply = .ok := by
  cases turn with
  | sent => rfl
  | trips choice k why =>
    rw [Supervisor.trip_rests] at running
    cases running
  | abandons run e reply h cut => rcases h with same | same <;> cases same
  | closes run reply e notes h failed =>
    rw [after_supervisor, Supervisor.windDown_rests] at running
    cases running

theorem tick_turn {run : Run R} {reply : Reply R} {t : Supervisor R}
    (ticks : ticksFrom m s run reply = some t) :
    (∃ k notes, run.resume m s reply = (nextTick m t k).after notes) ∧ t.running = true ∧
      t.runner = s.runner ∧ (t.status = .failsafe → s.status = .failsafe) ∧
      ∀ choice k, run ≠ .sending choice k := by
  unfold ticksFrom at ticks
  split at ticks
  · rename_i k
    split at ticks
    · rename_i running
      cases ticks
      exact ⟨⟨k, [], rfl⟩, running, rfl, id, by simp⟩
    · cases ticks
  · dsimp only at ticks
    split at ticks
    · rename_i running
      split at ticks
      · rename_i k made
        cases ticks
        obtain ⟨activated, told, eq⟩ := s.transition_only (m.told .active) .active
        refine ⟨⟨k, .startupComplete :: (s.transition (m.told .active) .active).2, ?_⟩, ?_,
          transition_kept s (m.told .active) .active, ?_, by simp⟩
        · simp [resume, activate, running, made, Progress.after]
        · rw [eq]; exact running
        · intro failed
          cases (s.transition_status (m.told .active) .active).symm.trans failed
      · cases ticks
    · cases ticks
  · cases ticks

section
variable {k : Keeper R}

theorem nextTick_fails {why : Fault R} (running : s.running = true)
    (failed : (s.choose m.plan).result = .error why) :
    ∃ notes, nextTick m s k = (trip m (s.choose m.plan).state k why).after notes :=
  ⟨(s.choose m.plan).notes, by simp [nextTick, beginTick, running, failed]⟩

theorem nextTick_hands {choice : Supervisor.Choice R} (running : s.running = true)
    (chosen : (s.choose m.plan).result = .ok choice)
    (needed : ((s.choose m.plan).state.wire choice.command).2 = true) :
    (nextTick m s k).run = .sending choice k ∧ (nextTick m s k).request = .send choice.command := by
  simp [nextTick, beginTick, running, chosen, needed]

theorem nextTick_chosen {choice : Supervisor.Choice R} (running : s.running = true)
    (chosen : (s.choose m.plan).result = .ok choice) :
    (nextTick m s k).supervisor.runner = (s.choose m.plan).state.runner ∧
      (nextTick m s k).supervisor.status = s.status := by
  have wired := (s.choose m.plan).state.wire_runner choice.command
  have status : ((s.choose m.plan).state.wire choice.command).1.status = s.status := by
    rw [Supervisor.wire_status, Supervisor.choose_status]
  rcases nextTick_cases m s k with
    ⟨idle, _⟩ | ⟨why, notes, _, failed, _⟩ | ⟨other, notes, _, same, eq⟩
  · rw [running] at idle
    cases idle
  · rw [chosen] at failed
    cases failed
  · rw [chosen] at same
    cases same
    rcases eq with eq | eq
    · rw [eq]
      exact ⟨wired, status⟩
    · rw [eq, after_supervisor, settleTick_runner, settleTick_status]
      exact ⟨wired, status⟩

theorem plan_tick (running : s.running = true) (ticks : s.TicksPlan)
    (outside : s.status ≠ .failsafe) :
    let given := (s.runner.tickAt m.plan s.sampler.slot.value).result
    let p := nextTick m s k
    (p.supervisor.runner.isRunning = true → p.supervisor.status ≠ .failsafe ∧
        ∀ c, given = .ok (some c) → p.request = .send c ∧ ∃ choice, p.run = .sending choice k) ∧
      (p.supervisor.runner.succeeded = true → given = .ok none ∨ given = .ok (some .stop)) := by
  intro given p
  have ticked := Runner.tickAt_ticked s.runner m.plan s.sampler.slot.value
  have driven : (s.choose m.plan).state.runner = (s.runner.tickAt m.plan s.sampler.slot.value).state :=
    (s.choose_runner m.plan).trans (Supervisor.tickPlan_autonomous ticks.1).1
  have ends (done : (s.choose m.plan).state.runner.succeeded = true) :
      given = .ok none ∨ given = .ok (some .stop) :=
    Runner.ticked_succeeds ticked ticks.2 (driven ▸ done)
  cases chosen : (s.choose m.plan).result with
  | error why =>
    obtain ⟨notes, eq⟩ := nextTick_fails (k := k) running chosen
    have undriven := trip_undriven m (s.choose m.plan).state k why
    have rests := Supervisor.trip_rests m (s.choose m.plan).state k why
    have same : p.supervisor = (trip m (s.choose m.plan).state k why).supervisor :=
      congrArg (·.supervisor) eq
    rw [same]
    refine ⟨?_, fun done => ends (undriven.eases.succeeded done)⟩
    intro still
    rw [rests] at still
    cases still
  | ok choice =>
    obtain ⟨runner, status⟩ := nextTick_chosen (k := k) running chosen
    refine ⟨fun _ => ⟨status ▸ outside, ?_⟩, fun done => ends (runner ▸ done)⟩
    intro c gave
    obtain ⟨x, result, command⟩ := Supervisor.choose_autonomous ticks.1 outside chosen
    have some_c : x = some c := by
      have both : (Except.ok x : Runner.Given R) = .ok (some c) := result.symm.trans gave
      exact Except.ok.inj both
    rw [some_c] at command
    change choice.command = c at command
    have free : c = .stop ∨ ∃ v, c = .velocity v := by
      change Runner.Ticked s.runner _ _ _ given at ticked
      rw [gave] at ticked
      exact Runner.ticked_command ticked
    have sends := nextTick_hands (k := k) running chosen
      (Supervisor.wire_needed (command.symm ▸ free))
    exact ⟨command ▸ sends.2, choice, sends.1⟩

theorem foreign_tick (running : s.running = true) (foreign : ¬ s.TicksPlan) :
    s.Undriven (nextTick m s k).supervisor := by
  have eases : s.runner.Eases (s.choose m.plan).state.runner := by
    rw [s.choose_runner]
    exact Supervisor.tickPlan_eases foreign m.plan
  cases chosen : (s.choose m.plan).result with
  | error why =>
    obtain ⟨notes, eq⟩ := nextTick_fails (k := k) running chosen
    rw [eq]
    exact ⟨eases.trans (trip_undriven m _ k why).eases,
      fun _ => .inr (Supervisor.trip_rests m _ k why)⟩
  | ok choice =>
    obtain ⟨runner, status⟩ := nextTick_chosen (k := k) running chosen
    exact ⟨runner ▸ eases, fun failed => .inl (status ▸ failed)⟩

end

end Run
end Quadruped
