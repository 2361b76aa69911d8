import Quadruped.Proofs.Supervisor.Listeners
import Quadruped.Proofs.Supervisor.Release

/-!
The statuses of a run from its begin to its end. They rise as far as the run comes, and the end of its
cleanup stops the supervisor; every change on the way is told once to everyone who listens. A run that
is asked to stop or broken off is over after five answers at most.
-/
namespace Quadruped

variable {R : Type}

def Status.rise : List Status := [.starting, .active, .failsafe]

namespace Supervisor

/-- A supervisor that was disconnected, has taken these statuses since, and has told each change to its
listener. -/
structure Recorded (s : Supervisor R) (taken : List Status) : Prop where
  plain : s.Plain
  left : s.told.map Notice.old ++ [s.status] = .disconnected :: taken
  entered : s.told.map Notice.new = taken

variable {s t : Supervisor R} {taken : List Status}

theorem Recorded.of_same (before : s.Recorded taken) (listeners : t.listeners = s.listeners)
    (status : t.status = s.status) (told : t.told = s.told) : t.Recorded taken :=
  ⟨listeners.trans before.plain, by rw [told, status]; exact before.left, told ▸ before.entered⟩

theorem Recorded.status (before : s.Recorded taken) :
    (.disconnected :: taken).getLast? = some s.status := by
  rw [← before.left, List.getLast?_concat]

theorem Recorded.stays (before : s.Recorded taken) (now : R) {new : Status}
    (same : s.status = new) : (s.transition now new).1.Recorded taken := by
  unfold transition
  rw [if_pos same.symm]
  exact before

theorem Recorded.changes (before : s.Recorded taken) (now : R) {new : Status}
    (other : s.status ≠ new) : (s.transition now new).1.Recorded (taken ++ [new]) := by
  have one : s.listeners.length = 1 := congrArg List.length before.plain
  have told : (s.transition now new).1.told = s.told ++ [⟨0, now, s.status, new⟩] := by
    unfold transition
    rw [if_neg (Ne.symm other), one]
    rfl
  refine ⟨s.transition_plain before.plain now new, ?_, ?_⟩
  · rw [told, List.map_append, transition_status]
    exact congrArg (· ++ [new]) before.left
  · rw [told, List.map_append, before.entered]
    rfl

theorem Recorded.not_stopped (before : s.Recorded taken) (rising : taken <+: Status.rise) :
    s.status ≠ .stopped := by
  have risen : s.status ∈ .disconnected :: Status.rise := by
    have member := List.mem_of_getLast? before.status
    exact (List.cons_subset_cons _ rising.subset) member
  intro stopped
  rw [stopped] at risen
  exact absurd risen (by decide)

end Supervisor

namespace Run

/-- The statuses that a run has taken where it stands. -/
def Passed (taken : List Status) : Run R → Prop
  | .ready _ => False
  | .connecting _ => taken = []
  | .rousing .. | .dwelling .. | .halting => taken = [.starting]
  | .sending .. | .tripping _ | .pacing _ =>
    taken = [.starting, .active] ∨ taken = Status.rise
  | .parking _ | .leaving _ => taken <+: Status.rise
  | .over _ => ∃ risen, risen <+: Status.rise ∧ taken = risen ++ [.stopped]

theorem Passed.rising {run : Run R} {taken : List Status} (passed : run.Passed taken)
    (under_way : run.UnderWay) : taken <+: Status.rise := by
  cases run with
  | ready | parking | leaving | «over» => exact under_way.elim
  | connecting => rw [passed]; decide
  | rousing | dwelling | halting => rw [passed]; decide
  | sending | tripping | pacing => rcases passed with rfl | rfl <;> decide

theorem Passed.shape {run : Run R} {taken : List Status} :
    run.Passed taken → ∃ risen, risen <+: Status.rise ∧ taken = risen ++ (match run with
      | .over _ => [.stopped]
      | _ => []) := by
  intro passed
  cases run with
  | ready => exact passed.elim
  | «over» => exact passed
  | parking | leaving => exact ⟨taken, passed, (List.append_nil _).symm⟩
  | connecting | rousing | dwelling | halting | sending | tripping | pacing =>
    exact ⟨taken, passed.rising trivial, (List.append_nil _).symm⟩

def Progress.Passes (p : Progress R) : Prop :=
  ∃ taken, p.supervisor.Recorded taken ∧ p.run.Passed taken

variable {m : Moment R} {s : Supervisor R} {taken : List Status}

theorem conclude_passes (e : Ending R) (before : s.Recorded taken) (rising : taken <+: Status.rise) :
    (conclude m s e).Passes :=
  ⟨taken ++ [Status.stopped], before.changes (m.told .stopped) (before.not_stopped rising), taken,
    rising, rfl⟩

theorem windDown_passes (e : Ending R) (before : s.Recorded taken) (rising : taken <+: Status.rise) :
    (windDown m s e).Passes := by
  have cancelled : s.stop.cancelPlan.1.Recorded taken := before.of_same rfl rfl rfl
  rcases windDown_cases m s e with ⟨_, run, _, eq⟩ | ⟨_, run, _, eq⟩
  · refine ⟨taken, eq ▸ cancelled, ?_⟩
    rw [run]
    exact rising
  · refine ⟨taken ++ [.stopped], ?_, ?_⟩
    · rw [eq]
      exact cancelled.changes (m.told .stopped) (cancelled.not_stopped rising)
    · rw [run]
      exact ⟨taken, rising, rfl⟩

theorem balance_passes (n : Nat) (before : s.Recorded [.starting]) : (balance m s n).Passes := by
  rcases balance_cases m s n with ⟨_, eq⟩ | ⟨left, _, _, eq⟩ | ⟨_, eq⟩
  · rw [eq]; exact ⟨_, before, rfl⟩
  · rw [eq]; exact ⟨_, before, rfl⟩
  · rw [eq]; exact windDown_passes _ before (by decide)

theorem stand_passes (n : Nat) (before : s.Recorded [.starting]) : (stand m s n).Passes := by
  rcases stand_cases m s n with ⟨_, notes, eq⟩ | ⟨left, _, _, eq⟩ | ⟨_, eq⟩
  · rw [eq]; exact balance_passes _ before
  · rw [eq]; exact ⟨_, before, rfl⟩
  · rw [eq]; exact windDown_passes _ before (by decide)

theorem trip_passes (k : Keeper R) (why : Fault R) (before : s.Recorded taken)
    (passed : taken = [.starting, .active] ∨ taken = Status.rise) : (trip m s k why).Passes := by
  have idle : ({ s.cancelPlan.1 with mode := s.cancelPlan.1.mode.set .idle } :
      Supervisor R).Recorded taken := before.of_same rfl rfl rfl
  rcases passed with rfl | rfl
  · have active : s.status = .active := (Option.some.inj before.status).symm
    exact ⟨_, idle.changes (m.told .failsafe) fun failed => (by cases active.symm.trans failed),
      .inr rfl⟩
  · have failed : s.status = .failsafe := (Option.some.inj before.status).symm
    exact ⟨_, idle.stays (m.told .failsafe) failed, .inr rfl⟩

variable [Scalar R]

theorem settleTick_passes (choice : Supervisor.Choice R) (k : Keeper R) (before : s.Recorded taken)
    (passed : taken = [.starting, .active] ∨ taken = Status.rise) :
    (settleTick m s choice k).Passes := by
  obtain ⟨mode, eq⟩ := s.settle_only choice.mode
  refine ⟨taken, ?_, passed⟩
  change (s.settle choice.mode).1.Recorded taken
  rw [eq]
  exact before.of_same rfl rfl rfl

theorem nextTick_passes (k : Keeper R) (before : s.Recorded taken)
    (passed : taken = [.starting, .active] ∨ taken = Status.rise) : (nextTick m s k).Passes := by
  have chosen : (s.choose m.plan).state.Recorded taken := by
    obtain ⟨runner, dispatch, eq⟩ := s.choose_only m.plan
    rw [eq]
    exact before.of_same rfl rfl rfl
  have wired (c : Command R) : ((s.choose m.plan).state.wire c).1.Recorded taken := by
    obtain ⟨latched, eq⟩ := (s.choose m.plan).state.wire_only c
    rw [eq]
    exact chosen.of_same rfl rfl rfl
  rcases nextTick_cases m s k with
    ⟨_, eq⟩ | ⟨why, notes, _, _, eq⟩ | ⟨choice, notes, _, _, eq | eq⟩
  · rw [eq]
    have pacing : (pacing k : Run R).Passed taken := passed
    exact windDown_passes _ before (pacing.rising trivial)
  · rw [eq]; exact trip_passes k why chosen passed
  · rw [eq]; exact ⟨taken, wired choice.command, passed⟩
  · rw [eq]; exact settleTick_passes choice k (wired choice.command) passed

theorem activate_passes (before : s.Recorded [.starting]) : (activate m s).Passes := by
  have starting : s.status = .starting := (Option.some.inj before.status).symm
  have active : (s.transition (m.told .active) .active).1.Recorded [.starting, .active] :=
    before.changes (m.told .active) (by rw [starting]; decide)
  rcases activate_cases m s with ⟨e, eq⟩ | ⟨e, notes, _, eq⟩ | ⟨k, notes, _, eq⟩
  · rw [eq]; exact windDown_passes e before (by decide)
  · rw [eq]; exact windDown_passes e active (by decide)
  · rw [eq]; exact nextTick_passes k active (.inl rfl)

def Closing : Run R → Prop
  | .parking _ | .leaving _ => True
  | _ => False

theorem passed_turn {run : Run R} {reply : Reply R} {p : Progress R} (before : s.Recorded taken)
    (passed : run.Passed taken) (uncut : run.Closing → reply.Handled) (turn : Turn m s run reply p) :
    p.Passes := by
  cases turn with
  | begins i => exact passed.elim
  | neverBegins i reply h => exact passed.elim
  | staysOver e reply => exact ⟨taken, before, passed⟩
  | connects i notes =>
    cases passed
    have fresh : s.status = .disconnected := (Option.some.inj before.status).symm
    exact stand_passes _ (before.changes (m.told .starting) (by rw [fresh]; decide))
  | dwells p n => exact ⟨taken, before, passed⟩
  | stands n => cases passed; exact stand_passes n before
  | balances p n h => cases passed; exact balance_passes n before
  | halts notes => cases passed; exact activate_passes before
  | sent choice k notes => exact settleTick_passes choice k (before.of_same rfl rfl rfl) passed
  | trips choice k why => exact trip_passes k why before passed
  | paces k reply notes h => exact ⟨taken, before, passed⟩
  | ticks k => exact nextTick_passes k before passed
  | leaves e => exact ⟨taken, before, passed⟩
  | parkingFails e why => exact conclude_passes e before passed
  | concludes e => exact conclude_passes e before passed
  | leavingFails e why => exact conclude_passes e before passed
  | abandons run e reply h cut =>
    have handled : reply.Handled := uncut (by rcases h with rfl | rfl <;> trivial)
    rcases cut with rfl | rfl <;> exact handled.elim
  | closes run reply e notes h failed => exact windDown_passes e before (passed.rising h)

end Run

namespace Run

variable {m : Moment R} {s : Supervisor R}

/-- How many answers a run that has been asked to stop waits for at most. -/
def toGo : Run R → Nat
  | .over _ => 0
  | .leaving _ => 1
  | .parking _ => 2
  | .halting | .pacing _ => 3
  | .connecting _ | .dwelling .. | .tripping _ => 4
  | .ready _ | .rousing .. | .sending .. => 5

theorem over_of_toGo {run : Run R} (none : run.toGo = 0) : ∃ e, run = .over e := by
  cases run with
  | «over» e => exact ⟨e, rfl⟩
  | _ => cases none

theorem toGo_le (run : Run R) : run.toGo ≤ 5 := by
  cases run <;> simp [toGo]

/-- A turn that leaves a run stopping, if still under way, with so many answers to come at most. -/
structure Progress.Nears (p : Progress R) (most : Nat) : Prop where
  stopping : p.run.UnderWay → p.supervisor.running = false
  near : p.run.toGo ≤ most

theorem transition_running (s : Supervisor R) (now : R) (new : Status) :
    (s.transition now new).1.running = s.running := by
  obtain ⟨_, _, eq⟩ := s.transition_only now new
  rw [eq]

theorem windDown_nears (m : Moment R) (s : Supervisor R) (e : Ending R) :
    (windDown m s e).Nears 2 := by
  rcases windDown_cases m s e with ⟨_, run, _, eq⟩ | ⟨_, run, _, eq⟩
  · exact ⟨fun _ => by rw [eq]; rfl, by rw [run]; exact Nat.le_refl 2⟩
  · exact ⟨fun _ => by rw [eq, transition_running]; rfl, by rw [run]; exact Nat.zero_le 2⟩

theorem Progress.Nears.mono {p : Progress R} {few many : Nat} (nears : p.Nears few)
    (order : few ≤ many) : p.Nears many := ⟨nears.stopping, Nat.le_trans nears.near order⟩

theorem balance_nears (m : Moment R) (n : Nat) (stopping : s.running = false) :
    (balance m s n).Nears 3 := by
  rcases balance_cases m s n with ⟨_, eq⟩ | ⟨left, _, running, eq⟩ | ⟨_, eq⟩
  · rw [eq]; exact ⟨fun _ => stopping, Nat.le_refl 3⟩
  · rw [stopping] at running; cases running
  · rw [eq]; exact (windDown_nears m s _).mono (by decide)

theorem stand_nears (m : Moment R) (n : Nat) (stopping : s.running = false) :
    (stand m s n).Nears 3 := by
  rcases stand_cases m s n with ⟨_, notes, eq⟩ | ⟨left, _, running, eq⟩ | ⟨_, eq⟩
  · rw [eq]
    obtain ⟨still, near⟩ := balance_nears m s.timing.startupRepeats.toNat stopping
    exact ⟨still, near⟩
  · rw [stopping] at running; cases running
  · rw [eq]; exact (windDown_nears m s _).mono (by decide)

variable [Scalar R] {taken : List Status}

theorem turn_nears {run : Run R} {reply : Reply R} {p : Progress R} (passed : run.Passed taken)
    (ending : run.UnderWay → s.running = false) (turn : Turn m s run reply p) :
    p.Nears (run.toGo - 1) := by
  cases turn with
  | begins i => exact passed.elim
  | neverBegins i reply h => exact passed.elim
  | staysOver e reply => exact ⟨False.elim, Nat.zero_le _⟩
  | connects i notes =>
    obtain ⟨still, near⟩ := stand_nears (s := (s.transition (m.told .starting) .starting).1) m _
      ((transition_running s (m.told .starting) .starting).trans (ending trivial))
    exact ⟨still, near⟩
  | dwells p n => exact ⟨fun _ => ending trivial, Nat.le_refl 4⟩
  | stands n => exact stand_nears m n (ending trivial)
  | balances p n h => exact balance_nears m n (ending trivial)
  | halts notes =>
    have stopping := ending trivial
    rcases activate_cases m s with ⟨e, eq⟩ | ⟨e, notes, running, eq⟩ | ⟨k, notes, running, eq⟩
    · rw [eq]
      obtain ⟨still, near⟩ := windDown_nears m s e
      exact ⟨still, near⟩
    · rw [stopping] at running; cases running
    · rw [stopping] at running; cases running
  | sent choice k notes =>
    obtain ⟨mode, eq⟩ := (s.record choice.command).1.settle_only choice.mode
    refine ⟨fun _ => ?_, Nat.le_succ 3⟩
    change ((s.record choice.command).1.settle choice.mode).1.running = false
    rw [eq]
    exact ending trivial
  | trips choice k why =>
    exact ⟨fun _ => (transition_running _ (m.told .failsafe) .failsafe).trans (ending trivial),
      Nat.le_refl 4⟩
  | paces k reply notes h => exact ⟨fun _ => ending trivial, Nat.le_refl 3⟩
  | ticks k =>
    have stopping := ending trivial
    rcases nextTick_cases m s k with
      ⟨_, eq⟩ | ⟨why, notes, running, _, eq⟩ | ⟨choice, notes, running, _, eq⟩
    · rw [eq]; exact windDown_nears m s _
    · rw [stopping] at running; cases running
    · rw [stopping] at running; cases running
  | leaves e => exact ⟨False.elim, Nat.le_refl 1⟩
  | parkingFails e why => exact ⟨False.elim, Nat.zero_le _⟩
  | concludes e => exact ⟨False.elim, Nat.zero_le _⟩
  | leavingFails e why => exact ⟨False.elim, Nat.zero_le _⟩
  | abandons run e reply h cut => exact ⟨False.elim, Nat.zero_le _⟩
  | closes run reply e notes h failed =>
    obtain ⟨still, near⟩ := windDown_nears m s e
    refine ⟨still, Nat.le_trans near ?_⟩
    cases run with
    | ready | parking | leaving | «over» => exact h.elim
    | halting | pacing => exact Nat.le_refl 2
    | connecting | dwelling | tripping => exact Nat.le_succ 2
    | rousing | sending => exact Nat.le_add_right 2 2

/-- What brings a run to its cleanup: any failure outside its ticks, and a cancellation also there. -/
def Breaks : Run R → Reply R → Prop
  | .sending .., reply => reply = .cancelled
  | .tripping _, reply => reply = .cancelled
  | _, reply => reply ≠ .ok

theorem broken_turn {run : Run R} {reply : Reply R} {p : Progress R} (breaks : run.Breaks reply)
    (turn : Turn m s run reply p) : ¬p.run.UnderWay := by
  cases turn with
  | begins | connects | dwells | stands | balances | halts | ticks => exact absurd rfl breaks
  | sent | trips => cases breaks
  | paces k reply notes h =>
    cases breaks
    rcases h with ok | ⟨why, raised⟩
    · cases ok
    · cases raised
  | neverBegins | staysOver | leaves | parkingFails | concludes | leavingFails | abandons => exact id
  | closes run reply e notes h failed =>
    rcases windDown_cases m s e with ⟨_, eq, _⟩ | ⟨_, eq, _⟩
    · rw [after_run, eq]
      exact id
    · rw [after_run, eq]
      exact id

end Run

namespace Course

variable [Scalar R]

/-- The last stop and the disconnect are answered, well or with a fault. -/
def Uncut : Course R → List (Event R) → Prop
  | _, [] => True
  | c, .answer m reply :: rest =>
    (c.run.Closing → reply.Handled) ∧ (c.step (.answer m reply)).Uncut rest
  | c, e :: rest => (c.step e).Uncut rest

def answers : List (Event R) → Nat
  | [] => 0
  | .answer .. :: rest => answers rest + 1
  | _ :: rest => answers rest

theorem uncut_append {c : Course R} {first later : List (Event R)} :
    c.Uncut (first ++ later) ↔ c.Uncut first ∧ (c.after first).Uncut later := by
  induction first generalizing c with
  | nil => exact ⟨fun uncut => ⟨trivial, uncut⟩, And.right⟩
  | cons e rest ih =>
    cases e with
    | call | upset => exact ih
    | answer m reply => exact (and_congr_right fun _ => ih).trans and_assoc.symm

def Passes (c : Course R) : Prop := ∃ taken, c.supervisor.Recorded taken ∧ c.run.Passed taken

theorem step_passes {c : Course R} {e : Event R} (before : c.Passes) (uncut : c.Uncut [e]) :
    (c.step e).Passes := by
  obtain ⟨taken, recorded, passed⟩ := before
  cases e with
  | call k =>
    refine ⟨taken, ?_, passed⟩
    obtain ⟨mode, runner, running, sampler, eq⟩ := c.supervisor.obey_only k
    change (c.supervisor.obey k).Recorded taken
    rw [eq]
    exact recorded.of_same rfl rfl rfl
  | upset r => exact ⟨taken, recorded.of_same rfl rfl rfl, passed⟩
  | answer m reply =>
    exact Run.passed_turn recorded passed uncut.1 (Run.resume_turn m c.supervisor c.run reply)

theorem after_passes {c : Course R} {events : List (Event R)} (before : c.Passes)
    (uncut : c.Uncut events) : (c.after events).Passes := by
  induction events generalizing c with
  | nil => exact before
  | cons e rest ih =>
    obtain ⟨first, later⟩ := uncut_append.mp (show c.Uncut ([e] ++ rest) from uncut)
    exact ih (step_passes before first) later

/-- The run comes to its end: it has been asked to stop, or is not under way any more. -/
def Ends (c : Course R) : Prop := c.run.UnderWay → c.supervisor.running = false

theorem ending_step {c : Course R} (passes : c.Passes) (ending : c.Ends) (e : Event R) :
    (c.step e).Ends ∧ (c.step e).run.toGo ≤ c.run.toGo - answers [e] := by
  obtain ⟨taken, _, passed⟩ := passes
  cases e with
  | call k =>
    refine ⟨fun under_way => ?_, Nat.le_refl _⟩
    have stopping : c.supervisor.running = false := ending under_way
    cases k with
    | setMode m =>
      obtain ⟨_, eq⟩ := c.supervisor.setMode_only m
      exact (congrArg (·.running) eq).trans stopping
    | startPlan items heading =>
      obtain ⟨_, _, eq⟩ := c.supervisor.startPlan_only items heading
      exact (congrArg (·.running) eq).trans stopping
    | cancelPlan | hear => exact stopping
    | stop => rfl
  | upset r => exact ⟨ending, Nat.le_refl _⟩
  | answer m reply =>
    obtain ⟨still, near⟩ :=
      Run.turn_nears passed ending (Run.resume_turn m c.supervisor c.run reply)
    exact ⟨still, near⟩

theorem ending_after {c : Course R} {events : List (Event R)} (passes : c.Passes)
    (ending : c.Ends) (uncut : c.Uncut events) :
    (c.after events).run.toGo ≤ c.run.toGo - answers events := by
  induction events generalizing c with
  | nil => exact Nat.le_refl _
  | cons e rest ih =>
    obtain ⟨first, later⟩ := uncut_append.mp (show c.Uncut ([e] ++ rest) from uncut)
    obtain ⟨still, near⟩ := ending_step passes ending e
    have further := ih (step_passes passes first) still later
    have count : answers (e :: rest) = answers [e] + answers rest := by
      cases e <;> simp [answers, Nat.add_comm]
    rw [after_cons, count]
    omega

theorem uncut_heardBy (l : List Listener) {c : Course R} (plain : c.supervisor.Plain)
    {events : List (Event R)} : (c.heardBy l).Uncut events ↔ c.Uncut events := by
  induction events generalizing c with
  | nil => exact Iff.rfl
  | cons e rest ih =>
    have next := ih (step_plain plain e)
    rw [← heardBy_step l plain] at next
    cases e with
    | call | upset => exact next
    | answer m reply => exact and_congr_right fun _ => next

omit [Scalar R] in
theorem begin_passes (timing : Timing R) (dispatch : Dispatch R) (runner : Runner R)
    (interface : String) : (begin (.create timing dispatch runner [.recorder]) interface).Passes :=
  ⟨[], ⟨rfl, rfl, rfl⟩, rfl⟩

theorem ending_ends {start : Course R} {first later : List (Event R)} (passes : start.Passes)
    (uncut : start.Uncut (first ++ later)) (ending : (start.after first).Ends)
    (enough : 5 ≤ answers later) : ∃ e, (start.after (first ++ later)).run = .over e := by
  obtain ⟨early, late⟩ := uncut_append.mp uncut
  have near := ending_after (after_passes passes early) ending late
  have most : (start.after first).run.toGo ≤ 5 := Run.toGo_le _
  rw [after_append]
  exact Run.over_of_toGo (by omega)

/-- Whoever listens, a run takes the statuses on the rise as far as it comes, and is stopped in the
end; each listener is told of each change once, and nothing else depends on the listeners. A run that
has been asked to stop, or is broken off, is over five answers later. -/
theorem every_change_is_told_once (timing : Timing R) (dispatch : Dispatch R) (runner : Runner R)
    (listeners : List Listener) (interface : String) (events : List (Event R))
    (uncut : (begin (.create timing dispatch runner listeners) interface).Uncut events) :
    let start := begin (.create timing dispatch runner listeners) interface
    let c := start.after events
    (∃ (changes : List (Notice R)) (risen : List Status), risen <+: Status.rise ∧
      changes.map Notice.new = risen ++ (match c.run with
        | .over _ => [.stopped]
        | _ => []) ∧
      changes.map Notice.old ++ [c.supervisor.status] = .disconnected :: changes.map Notice.new ∧
      c.supervisor.told = changes.flatMap (Supervisor.calls listeners.length) ∧
      ∀ others, (begin (.create timing dispatch runner others) interface).after events =
        { c with
          supervisor := { c.supervisor with
            listeners := others
            told := changes.flatMap (Supervisor.calls others.length) } }) ∧
    (∀ first later, events = first ++ later → (start.after first).Ends → 5 ≤ answers later →
      ∃ e, c.run = .over e) ∧
    ∀ first m reply later, events = first ++ .answer m reply :: later →
      (start.after first).run.Breaks reply → 5 ≤ answers later → ∃ e, c.run = .over e := by
  intro start c
  -- the invariant is about one quiet listener, of whom the others are copies
  let quiet := begin (.create timing dispatch runner [.recorder]) interface
  have plain : quiet.supervisor.Plain := rfl
  have passes : quiet.Passes := begin_passes timing dispatch runner interface
  have quiet_uncut : quiet.Uncut events := (uncut_heardBy listeners plain).mp uncut
  have same (others : List Listener) (done : List (Event R)) :
      (begin (.create timing dispatch runner others) interface).after done =
        (quiet.after done).heardBy others := heardBy_after others plain done
  have heard : c = (quiet.after events).heardBy listeners := same listeners events
  have ends (first later : List (Event R)) (split : events = first ++ later)
      (ending : (start.after first).Ends) (enough : 5 ≤ answers later) : ∃ e, c.run = .over e := by
    have quiet_ending : (quiet.after first).Ends := by
      rw [same listeners first] at ending
      exact ending
    rw [split] at quiet_uncut heard
    rw [heard]
    exact ending_ends passes quiet_uncut quiet_ending enough
  refine ⟨?_, ends, ?_⟩
  · obtain ⟨taken, recorded, passed⟩ := after_passes passes quiet_uncut
    obtain ⟨risen, rising, shape⟩ := passed.shape
    refine ⟨(quiet.after events).supervisor.told, risen, rising, ?_, ?_, ?_, fun others => ?_⟩
    · rw [heard]
      exact recorded.entered.trans shape
    · rw [heard, recorded.entered]
      exact recorded.left
    · rw [heard]
      rfl
    · rw [same, heard]
      rfl
  · intro first m reply later split breaks
    refine ends (first ++ [.answer m reply]) later (split.trans (by simp)) fun under_way => ?_
    have broken : ¬((start.after first).step (.answer m reply)).run.UnderWay :=
      Run.broken_turn breaks (Run.resume_turn m _ _ reply)
    rw [after_append] at under_way
    exact absurd under_way broken

/-- A run whose first tick fails, with two listeners, the first of which fails too. -/
theorem failed_tick_is_told_to_both :
    let supervisor (listeners : List Listener) : Supervisor Float :=
      .create { Timing.standard with startupRepeats := 0 } ⟨.standard, [1], 0⟩ .standard listeners
    let opening : List (Event Float) :=
      [.answer (.frozen 0 true) .ok, .call (.setMode (.teleop .forward)), .answer (.frozen 0 true) .ok,
        .answer (.frozen 0 true) .ok, .call .stop]
    let closing : List (Event Float) := List.replicate 5 (.answer (.frozen 1 true) .ok)
    let start := begin (supervisor [.failing, .announcer]) "sim0"
    let c := start.after (opening ++ closing)
    start.Uncut (opening ++ closing) ∧ (start.after opening).supervisor.running = false ∧
      (∃ e, c.run = .over e) ∧
      ((begin (supervisor []) "sim0").after (opening ++ closing)).handed = c.handed ∧
      c.supervisor.told.map (fun n => (n.listener, n.new)) =
        [(0, .starting), (1, .starting), (0, .active), (1, .active),
          (0, .failsafe), (1, .failsafe), (0, .stopped), (1, .stopped)] := by
  intro supervisor opening closing start c
  have uncut : start.Uncut (opening ++ closing) := by
    simp [opening, closing, Uncut, Reply.Handled]
  have stopping : (start.after opening).supervisor.running = false := by decide +kernel
  obtain ⟨⟨_, _, _, _, _, _, others⟩, ends, _⟩ :=
    every_change_is_told_once { Timing.standard with startupRepeats := 0 } ⟨.standard, [1], 0⟩ .standard
      [.failing, .announcer] "sim0" (opening ++ closing) uncut
  have silent := congrArg Course.handed (others [])
  exact ⟨uncut, stopping, ends opening closing rfl (fun _ => stopping) (by decide), silent,
    by decide +kernel⟩

end Course
end Quadruped
