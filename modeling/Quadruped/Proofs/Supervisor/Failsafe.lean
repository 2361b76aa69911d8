import Quadruped.Proofs.Supervisor.Turn

/-!
Failsafe is final. Once a run has failed it hands nothing but stops to the robot, whatever other tasks
select and however often a tick fails again, and only the end of the run follows.
-/
namespace Quadruped

variable {R : Type}

/-- Where a run may stand after a failure, with the status it then has. -/
def Run.Sealed (status : Status) : Run R → Prop
  | .sending choice _ => status = .failsafe ∧ choice.command = .stop
  | .tripping _ | .pacing _ | .parking _ | .leaving _ => status = .failsafe
  | .over _ => status = .failsafe ∨ status = .stopped
  | _ => False

def Run.Progress.Stopping (p : Run.Progress R) : Prop :=
  p.run.Sealed p.supervisor.status ∧ ∀ h ∈ p.handed, h.command = .stop

namespace Run

theorem conclude_stopping (m : Moment R) (s : Supervisor R) (e : Ending R) :
    (conclude m s e).Stopping := by
  refine ⟨.inr (s.transition_status (m.told .stopped) .stopped), ?_⟩
  intro h mem
  cases mem

theorem windDown_stopping (m : Moment R) {s : Supervisor R} (e : Ending R)
    (failed : s.status = .failsafe) : (windDown m s e).Stopping := by
  rcases windDown_cases m s e with ⟨_, run, request, eq⟩ | ⟨_, run, request, eq⟩
  · refine ⟨by rw [run, eq]; exact failed, ?_⟩
    simp [Progress.handed, request]
  · refine ⟨by rw [run, eq]; exact .inr (Supervisor.transition_status _ _ _), ?_⟩
    simp [Progress.handed, request]

theorem trip_status (m : Moment R) (s : Supervisor R) (k : Keeper R) (why : Fault R) :
    (trip m s k why).supervisor.status = .failsafe :=
  Supervisor.transition_status _ (m.told .failsafe) .failsafe

theorem trip_stopping (m : Moment R) (s : Supervisor R) (k : Keeper R) (why : Fault R) :
    (trip m s k why).Stopping := by
  refine ⟨trip_status m s k why, ?_⟩
  intro h mem
  rw [List.mem_singleton.mp mem]

def Progress.Trips (p : Progress R) : Prop :=
  (∃ k, p.run = .tripping k) ∧ p.handed = [⟨.failsafe, .stop⟩]

theorem trip_trips (m : Moment R) (s : Supervisor R) (k : Keeper R) (why : Fault R) :
    (trip m s k why).Trips := ⟨⟨k, rfl⟩, rfl⟩

theorem windDown_calm {m : Moment R} {s : Supervisor R} {e : Ending R}
    (inside : (windDown m s e).supervisor.status = .failsafe) : s.status = .failsafe := by
  rcases windDown_cases m s e with ⟨_, _, _, eq⟩ | ⟨_, _, _, eq⟩
  · rw [eq] at inside
    exact inside
  · rw [eq, Supervisor.transition_status] at inside
    cases inside

theorem balance_calm {m : Moment R} {s : Supervisor R} {n : Nat}
    (inside : (balance m s n).supervisor.status = .failsafe) : s.status = .failsafe := by
  rcases balance_cases m s n with ⟨_, eq⟩ | ⟨left, _, _, eq⟩ | ⟨_, eq⟩
  · rw [eq] at inside; exact inside
  · rw [eq] at inside; exact inside
  · rw [eq] at inside; exact windDown_calm inside

theorem stand_calm {m : Moment R} {s : Supervisor R} {n : Nat}
    (inside : (stand m s n).supervisor.status = .failsafe) : s.status = .failsafe := by
  rcases stand_cases m s n with ⟨_, notes, eq⟩ | ⟨left, _, _, eq⟩ | ⟨_, eq⟩
  · rw [eq] at inside; exact balance_calm inside
  · rw [eq] at inside; exact inside
  · rw [eq] at inside; exact windDown_calm inside

variable [Scalar R]

theorem pace_stopping (m : Moment R) {s : Supervisor R} (k : Keeper R)
    (failed : s.status = .failsafe) : (pace m s k).Stopping := by
  refine ⟨failed, ?_⟩
  intro h mem
  cases mem

theorem settleTick_status (m : Moment R) (s : Supervisor R) (choice : Supervisor.Choice R)
    (k : Keeper R) : (settleTick m s choice k).supervisor.status = s.status := by
  obtain ⟨mode, eq⟩ := s.settle_only choice.mode
  change (s.settle choice.mode).1.status = _
  rw [eq]

theorem settleTick_stopping (m : Moment R) {s : Supervisor R} (choice : Supervisor.Choice R)
    (k : Keeper R) (failed : s.status = .failsafe) : (settleTick m s choice k).Stopping := by
  obtain ⟨mode, eq⟩ := s.settle_only choice.mode
  have kept : (s.settle choice.mode).1.status = .failsafe := by rw [eq]; exact failed
  exact pace_stopping m k kept

end Run

theorem Supervisor.wire_status (s : Supervisor R) (c : Command R) :
    (s.wire c).1.status = s.status := by
  obtain ⟨latched, eq⟩ := s.wire_only c
  rw [eq]

variable [Scalar R]

theorem Supervisor.choose_status (s : Supervisor R) (now : Instants R) :
    (s.choose now).state.status = s.status := by
  obtain ⟨runner, dispatch, eq⟩ := s.choose_only now
  rw [eq]

theorem Supervisor.choose_after_failure {s : Supervisor R} {now : Instants R}
    {choice : Supervisor.Choice R} (failed : s.status = .failsafe)
    (chosen : (s.choose now).result = .ok choice) : choice.command = .stop := by
  obtain ⟨plan, _, rest, _⟩ := Outcome.andThen_succeeds chosen
  obtain ⟨runner, eq⟩ := s.tickPlan_only now
  rw [eq, if_pos failed] at rest
  cases rest
  rfl

namespace Run

theorem nextTick_stopping (m : Moment R) {s : Supervisor R} (k : Keeper R)
    (failed : s.status = .failsafe) : (nextTick m s k).Stopping := by
  rcases nextTick_cases m s k with
    ⟨_, eq⟩ | ⟨why, notes, _, _, eq⟩ | ⟨choice, notes, _, chosen, eq⟩
  · rw [eq]; exact windDown_stopping m _ failed
  · rw [eq]; exact trip_stopping m _ k why
  · have stop : choice.command = .stop := s.choose_after_failure failed chosen
    have kept : ((s.choose m.plan).state.wire choice.command).1.status = .failsafe := by
      rw [Supervisor.wire_status, Supervisor.choose_status]; exact failed
    rcases eq with eq | eq
    · rw [eq]
      refine ⟨⟨kept, stop⟩, ?_⟩
      intro h mem
      rw [List.mem_singleton.mp mem]
      exact stop
    · rw [eq]; exact settleTick_stopping m choice k kept

theorem sealed_turn {m : Moment R} {s : Supervisor R} {run : Run R} {reply : Reply R}
    {p : Progress R} (before : run.Sealed s.status) (turn : Turn m s run reply p) :
    p.Stopping := by
  have finished (status : s.status = .failsafe ∨ s.status = .stopped) (e : Ending R) :
      (finish s e).Stopping := ⟨status, by intro h mem; cases mem⟩
  cases turn with
  | begins i => exact False.elim before
  | neverBegins i reply h => exact False.elim before
  | staysOver e reply => exact finished before e
  | connects i notes => exact False.elim before
  | dwells p n => exact False.elim before
  | stands n => exact False.elim before
  | balances p n h => exact False.elim before
  | halts notes => exact False.elim before
  | sent choice k notes =>
    have failed : s.status = .failsafe := before.1
    exact settleTick_stopping m choice k failed
  | trips choice k why => exact trip_stopping m s k why
  | paces k reply notes h => exact pace_stopping m k before
  | ticks k => exact nextTick_stopping m k before
  | leaves e => exact ⟨before, by intro h mem; cases mem⟩
  | parkingFails e why => exact conclude_stopping m s e
  | concludes e => exact conclude_stopping m s e
  | leavingFails e why => exact conclude_stopping m s e
  | abandons run e reply h cut =>
    rcases h with rfl | rfl
    · exact finished (.inl before) .cancelled
    · exact finished (.inl before) .cancelled
  | closes run reply e notes h failed =>
    have status : s.status = .failsafe := by
      cases run with
      | sending choice k => exact before.1
      | tripping k => exact before
      | pacing k => exact before
      | _ => first | exact False.elim before | exact False.elim h
    exact windDown_stopping m e status

theorem nextTick_trips {m : Moment R} {s : Supervisor R} {k : Keeper R}
    (outside : s.status ≠ .failsafe)
    (inside : (nextTick m s k).supervisor.status = .failsafe) :
    (nextTick m s k).Trips ∧ ∃ why, (s.choose m.plan).result = .error why := by
  rcases nextTick_cases m s k with
    ⟨_, eq⟩ | ⟨why, notes, _, failed, eq⟩ | ⟨choice, notes, _, _, eq | eq⟩
  · rw [eq] at inside
    exact absurd (windDown_calm inside) outside
  · rw [eq]
    exact ⟨trip_trips m (s.choose m.plan).state k why, why, failed⟩
  · rw [eq] at inside
    exact absurd (by simpa [Supervisor.wire_status, Supervisor.choose_status] using inside) outside
  · rw [eq, after_supervisor, settleTick_status] at inside
    exact absurd (by simpa [Supervisor.wire_status, Supervisor.choose_status] using inside) outside

/-- What fails at a turn: the send of a command, or the choice of one. The first tick of all chooses
when the status has become active already. -/
def Fails (m : Moment R) (s : Supervisor R) (reply : Reply R) : Prop :=
  (∃ why, reply = .raised why) ∨
    ∃ t why, (t = s ∨ t = (s.transition (m.told .active) .active).1) ∧
      (t.choose m.plan).result = .error why

theorem activate_trips {m : Moment R} {s : Supervisor R} (outside : s.status ≠ .failsafe)
    (inside : (activate m s).supervisor.status = .failsafe) :
    (activate m s).Trips ∧
      ∃ why, ((s.transition (m.told .active) .active).1.choose m.plan).result = .error why := by
  have active : (s.transition (m.told .active) .active).1.status ≠ .failsafe := by simp
  rcases activate_cases m s with ⟨e, eq⟩ | ⟨e, notes, _, eq⟩ | ⟨k, notes, _, eq⟩
  · rw [eq] at inside; exact absurd (windDown_calm inside) outside
  · rw [eq] at inside; exact absurd (windDown_calm inside) active
  · rw [eq] at inside ⊢; exact nextTick_trips active inside

theorem enters_by_tripping {m : Moment R} {s : Supervisor R} {run : Run R} {reply : Reply R}
    {p : Progress R} (turn : Turn m s run reply p) (outside : s.status ≠ .failsafe)
    (inside : p.supervisor.status = .failsafe) : p.Trips ∧ Fails m s reply := by
  cases turn with
  | begins i => exact absurd inside outside
  | neverBegins i reply h => exact absurd inside outside
  | staysOver e reply => exact absurd inside outside
  | connects i notes =>
    have starting : (s.transition (m.told .starting) .starting).1.status = .failsafe :=
      stand_calm inside
    rw [Supervisor.transition_status] at starting
    cases starting
  | dwells p n => exact absurd inside outside
  | stands n => exact absurd (stand_calm inside) outside
  | balances p n h => exact absurd (balance_calm inside) outside
  | halts notes =>
    obtain ⟨trips, why, failed⟩ := activate_trips outside inside
    exact ⟨trips, .inr ⟨_, why, .inr rfl, failed⟩⟩
  | sent choice k notes =>
    rw [after_supervisor, settleTick_status] at inside
    exact absurd inside outside
  | trips choice k why => exact ⟨trip_trips m s k why, .inl ⟨why, rfl⟩⟩
  | paces k reply notes h => exact absurd inside outside
  | ticks k =>
    obtain ⟨trips, why, failed⟩ := nextTick_trips outside inside
    exact ⟨trips, .inr ⟨s, why, .inl rfl, failed⟩⟩
  | leaves e => exact absurd inside outside
  | parkingFails e why =>
    cases (s.transition_status (m.told .stopped) .stopped).symm.trans inside
  | concludes e => cases (s.transition_status (m.told .stopped) .stopped).symm.trans inside
  | leavingFails e why =>
    cases (s.transition_status (m.told .stopped) .stopped).symm.trans inside
  | abandons run e reply h cut => exact absurd inside outside
  | closes run reply e notes h failed => exact absurd (windDown_calm inside) outside

end Run

namespace Course

def FailsAgain (c : Course R) (e : Event R) : Prop :=
  (c.step e).handed = c.handed ++ [⟨.failsafe, .stop⟩] ∧
    (c.step e).supervisor.status = .failsafe

theorem sealed_step {c : Course R} (e : Event R) (before : c.run.Sealed c.supervisor.status) :
    (c.step e).run.Sealed (c.step e).supervisor.status ∧
      ∃ sent, (c.step e).handed = c.handed ++ sent ∧ ∀ h ∈ sent, h.command = .stop := by
  cases e with
  | call k =>
    refine ⟨?_, [], by simp [step], by simp⟩
    simpa [step] using before
  | upset r => exact ⟨before, [], by simp [step], by simp⟩
  | answer m reply =>
    have stopping := Run.sealed_turn before (Run.resume_turn m c.supervisor c.run reply)
    exact ⟨stopping.1, _, rfl, stopping.2⟩

theorem sealed_after (events : List (Event R)) {c : Course R}
    (before : c.run.Sealed c.supervisor.status) :
    (c.after events).run.Sealed (c.after events).supervisor.status ∧
      ∃ sent, (c.after events).handed = c.handed ++ sent ∧ ∀ h ∈ sent, h.command = .stop := by
  induction events generalizing c with
  | nil => exact ⟨before, [], by simp, by simp⟩
  | cons e rest ih =>
    obtain ⟨next, first, firstEq, firstStops⟩ := sealed_step e before
    obtain ⟨last, second, secondEq, secondStops⟩ := ih next
    refine ⟨last, first ++ second, ?_, ?_⟩
    · rw [after_cons, secondEq, firstEq, List.append_assoc]
    · intro h mem
      rcases List.mem_append.mp mem with early | late
      · exact firstStops h early
      · exact secondStops h late

theorem entry_seals {c : Course R} {entry : Event R} (outside : c.supervisor.status ≠ .failsafe)
    (inside : (c.step entry).supervisor.status = .failsafe) :
    (c.step entry).run.Sealed (c.step entry).supervisor.status ∧
      (c.step entry).handed = c.handed ++ [⟨.failsafe, .stop⟩] := by
  cases entry with
  | call k => exact absurd (by simpa [step] using inside) outside
  | upset r => exact absurd inside outside
  | answer m reply =>
    have turn := Run.resume_turn m c.supervisor c.run reply
    obtain ⟨⟨⟨k, tripping⟩, sent⟩, _⟩ := Run.enters_by_tripping turn outside inside
    refine ⟨?_, congrArg (c.handed ++ ·) sent⟩
    change (c.run.resume m c.supervisor reply).run.Sealed _
    rw [tripping]
    exact inside

theorem failure_again (c : Course R) :
    (∀ choice k m why, c.run = .sending choice k → c.FailsAgain (.answer m (.raised why))) ∧
      ∀ k m why, c.run = .pacing k → c.supervisor.running = true →
        (c.supervisor.choose m.plan).result = .error why → c.FailsAgain (.answer m .ok) := by
  constructor
  · intro choice k m why at_send
    simp only [FailsAgain, step, at_send]
    exact ⟨rfl, Run.trip_status m c.supervisor k why⟩
  · intro k m why at_pause running failed
    simp only [FailsAgain, step, at_pause]
    have tripped : ∃ notes, Run.nextTick m c.supervisor k =
        (Run.trip m (c.supervisor.choose m.plan).state k why).after notes := by
      rcases Run.nextTick_cases m c.supervisor k with
        ⟨idle, _⟩ | ⟨why', notes, _, failed', eq⟩ | ⟨choice, _, _, chosen, _⟩
      · rw [running] at idle; cases idle
      · rw [failed] at failed'; cases failed'; exact ⟨notes, eq⟩
      · rw [failed] at chosen; cases chosen
    obtain ⟨notes, eq⟩ := tripped
    change c.handed ++ (Run.nextTick m c.supervisor k).handed = _ ∧
      (Run.nextTick m c.supervisor k).supervisor.status = _
    rw [eq]
    exact ⟨rfl, Run.trip_status m _ k why⟩

theorem failsafe_is_final (s : Supervisor R) (interface : String) (before : List (Event R))
    (entry : Event R) (later : List (Event R))
    (outside : ((begin s interface).after before).supervisor.status ≠ .failsafe)
    (inside : (((begin s interface).after before).step entry).supervisor.status = .failsafe) :
    let c := (begin s interface).after (before ++ entry :: later)
    (∃ sent, c.handed =
        ((begin s interface).after before).handed ++ ⟨.failsafe, .stop⟩ :: sent ∧
          ∀ h ∈ sent, h.command = .stop) ∧
      (c.supervisor.status = .failsafe ∨
        c.supervisor.status = .stopped ∧ ∃ e, c.run = .over e) ∧
      (∀ choice k, c.run = .sending choice k → choice.command = .stop) ∧
      (∀ now choice, c.supervisor.status = .failsafe →
        (c.supervisor.choose now).result = .ok choice → choice.command = .stop) ∧
      (∀ choice k m why, c.run = .sending choice k → c.FailsAgain (.answer m (.raised why))) ∧
      ∀ k m why, c.run = .pacing k → c.supervisor.running = true →
        (c.supervisor.choose m.plan).result = .error why → c.FailsAgain (.answer m .ok) := by
  intro c
  obtain ⟨entered, first⟩ := entry_seals outside inside
  obtain ⟨sealed, sent, handed, stops⟩ := sealed_after later entered
  have reached : c = (((begin s interface).after before).step entry).after later := by simp [c]
  rw [← reached] at sealed handed
  refine ⟨⟨sent, ?_, stops⟩, ?_, ?_, ?_, failure_again c⟩
  · rw [handed, first, List.append_assoc]
    rfl
  · cases at_run : c.run with
    | «over» e =>
      rw [at_run] at sealed
      rcases sealed with failed | stopped
      · exact .inl failed
      · exact .inr ⟨stopped, e, rfl⟩
    | sending choice k => rw [at_run] at sealed; exact .inl sealed.1
    | tripping k => rw [at_run] at sealed; exact .inl sealed
    | pacing k => rw [at_run] at sealed; exact .inl sealed
    | parking e => rw [at_run] at sealed; exact .inl sealed
    | leaving e => rw [at_run] at sealed; exact .inl sealed
    | _ => rw [at_run] at sealed; exact False.elim sealed
  · intro choice k at_send
    rw [at_send] at sealed
    exact sealed.2
  · intro now choice failed chosen
    exact c.supervisor.choose_after_failure failed chosen

/-- The first tick fails; the operator selects a direction and starts a plan, and gets stops. -/
theorem mapper_failure_is_final :
    let before : List (Event Float) := [.answer (.frozen 0 true) .ok]
    let entry : Event Float := .answer (.frozen 0 true) .ok
    let later : List (Event Float) :=
      [.call (.setMode (.teleop .forward)), .answer (.frozen 0 true) (.raised (.breakdown .send)),
        .call (.startPlan [.segment (.travel 1)] none), .answer (.frozen 0.01 true) .ok]
    let first := begin (.standard 0 [1]) "sim0"
    (first.after before).supervisor.status ≠ .failsafe ∧
      ((first.after before).step entry).supervisor.status = .failsafe ∧
      ∃ sent, (first.after (before ++ entry :: later)).handed =
          (first.after before).handed ++ ⟨.failsafe, .stop⟩ :: sent ∧
            ∀ h ∈ sent, h.command = .stop := by
  intro before entry later first
  have outside : (first.after before).supervisor.status ≠ .failsafe := by decide
  have inside : ((first.after before).step entry).supervisor.status = .failsafe := by decide
  exact ⟨outside, inside, (failsafe_is_final _ _ before entry later outside inside).1⟩

end Course
end Quadruped
