import Quadruped.Proofs.Supervisor.Undriven
import Quadruped.Session.Mission

/-!
What became of the commands of a plan. A ledger beside a course keeps, since the last start of a plan,
every command that the runner gave for it and the answer to its send.
-/
namespace Quadruped

variable {R : Type}

inductive Fate (R : Type) where
  | lost
  | underWay
  | answered (reply : Reply R)
deriving DecidableEq, Repr

structure Entry (R : Type) where
  command : Command R
  fate : Fate R
deriving DecidableEq, Repr

def Entry.Delivered (e : Entry R) : Prop := e.fate = .answered .ok

def Entry.answer (reply : Reply R) (e : Entry R) : Entry R :=
  match e.fate with
  | .underWay => { e with fate := .answered reply }
  | _ => e

structure Ledger (R : Type) where
  course : Course R
  startedIn : Status
  tickedIn : List Status
  entries : List (Entry R)

/-- An upset may make the ticks of a plan fail. It neither starts a plan nor brings one to its end. -/
def Course.Undisturbed [Scalar R] : Course R → List (Event R) → Prop
  | _, [] => True
  | c, e :: rest =>
    (∀ r, e = .upset r → c.supervisor.runner.Eases r) ∧ (c.step e).Undisturbed rest

theorem Course.undisturbed [Scalar R] {events : List (Event R)} (calm : ∀ r, .upset r ∉ events)
    (c : Course R) : c.Undisturbed events := by
  induction events generalizing c with
  | nil => trivial
  | cons e rest ih =>
    refine ⟨?_, ih (fun r mem => calm r (List.mem_cons_of_mem e mem)) (c.step e)⟩
    rintro r rfl
    exact absurd List.mem_cons_self (calm r)

namespace Ledger

def settle (run : Run R) (reply : Reply R) (entries : List (Entry R)) : List (Entry R) :=
  match run with
  | .sending .. => entries.map (Entry.answer reply)
  | _ => entries

def enter [DecidableEq R] (given : Runner.Given R) (next : Request R) : List (Entry R) :=
  match given with
  | .ok (some c) => [⟨c, if next = .send c then .underWay else .lost⟩]
  | _ => []

structure Done (entries : List (Entry R)) : Prop where
  earlier : ∀ e ∈ entries.dropLast, e.Delivered
  last : ∀ e ∈ entries.getLast?, e.Delivered ∨ e.command = .stop

section
variable {entries : List (Entry R)}

theorem answer_delivered {e : Entry R} (delivered : e.Delivered) (reply : Reply R) :
    e.answer reply = e := by
  unfold Entry.answer
  rw [delivered]

theorem answer_command (e : Entry R) (reply : Reply R) :
    (e.answer reply).command = e.command := by
  unfold Entry.answer
  split <;> rfl

theorem answer_taken {e : Entry R} (waits : e.fate = .underWay ∨ e.Delivered) :
    (e.answer .ok).Delivered := by
  rcases waits with under_way | delivered
  · unfold Entry.answer
    rw [under_way]
    rfl
  · rw [answer_delivered delivered]
    exact delivered

theorem settle_delivered (delivered : ∀ e ∈ entries, e.Delivered) (run : Run R) (reply : Reply R) :
    settle run reply entries = entries := by
  unfold settle
  split
  · exact (List.map_congr_left fun e mem => answer_delivered (delivered e mem) reply).trans
      (List.map_id entries)
  · rfl

theorem settle_done (done : Done entries) (run : Run R) (reply : Reply R) :
    Done (settle run reply entries) := by
  unfold settle
  split
  · constructor
    · rw [← List.map_dropLast]
      intro e mem
      obtain ⟨f, before, rfl⟩ := List.mem_map.mp mem
      rw [answer_delivered (done.earlier f before)]
      exact done.earlier f before
    · rw [List.getLast?_map]
      intro e mem
      obtain ⟨f, before, rfl⟩ := Option.map_eq_some_iff.mp mem
      rcases done.last f before with delivered | stop
      · left
        rw [answer_delivered delivered]
        exact delivered
      · right
        rw [answer_command, stop]
  · exact done

theorem delivered_done (delivered : ∀ e ∈ entries, e.Delivered) : Done entries where
  earlier e mem := delivered e (List.dropLast_subset entries mem)
  last e mem := .inl (delivered e (List.mem_of_getLast? mem))

theorem enter_done [DecidableEq R] (delivered : ∀ e ∈ entries, e.Delivered)
    {given : Runner.Given R} (ends : given = .ok none ∨ given = .ok (some .stop))
    (next : Request R) : Done (entries ++ enter given next) := by
  rcases ends with rfl | rfl
  · simpa [enter] using delivered_done delivered
  · constructor
    · simpa [enter] using delivered
    · simp [enter]

theorem enter_waits [DecidableEq R] {given : Runner.Given R} {next : Request R}
    (sends : ∀ c, given = .ok (some c) → next = .send c) :
    ∀ e ∈ enter given next, e.fate = .underWay := by
  intro e mem
  unfold enter at mem
  split at mem
  · rename_i c
    rw [List.mem_singleton.mp mem]
    simp [sends c rfl]
  · cases mem

end

variable [Scalar R] [DecidableEq R]

def begin (s : Supervisor R) (interface : String) : Ledger R :=
  ⟨.begin s interface, s.status, [], []⟩

def turn (l : Ledger R) (m : Run.Moment R) (reply : Reply R) : Ledger R :=
  let c := l.course
  let l := { l with course := c.step (.answer m reply), entries := settle c.run reply l.entries }
  match Run.ticksFrom m c.supervisor c.run reply with
  | none => l
  | some s =>
    if s.TicksPlan then
      { l with
        tickedIn := l.tickedIn ++ [s.status]
        entries := l.entries ++ enter (s.runner.tickAt m.plan s.sampler.slot.value).result
          (c.run.resume m c.supervisor reply).request }
    else l

def step (l : Ledger R) (e : Event R) : Ledger R :=
  match e with
  | .call (.startPlan items heading) =>
    match (l.course.supervisor.startPlan items heading).result with
    | .ok () => ⟨l.course.step e, l.course.supervisor.status, [], []⟩
    | .error _ => { l with course := l.course.step e }
  | .answer m reply => l.turn m reply
  | _ => { l with course := l.course.step e }

def after (l : Ledger R) (events : List (Event R)) : Ledger R := events.foldl step l

/-- What holds of a plan that was started outside failsafe. -/
structure Accounted (l : Ledger R) : Prop where
  calm : l.course.supervisor.status = .failsafe → l.course.supervisor.runner.isRunning = false
  outside : .failsafe ∉ l.tickedIn
  running : l.course.supervisor.runner.isRunning = true →
    (∀ e ∈ l.entries, e.Delivered) ∨
      (∃ choice k, l.course.run = .sending choice k) ∧
        ∀ e ∈ l.entries, e.fate = .underWay ∨ e.Delivered
  done : l.course.supervisor.runner.succeeded = true → Done l.entries

omit [Scalar R] [DecidableEq R] in
theorem settled_delivered {l : Ledger R} (accounted : l.Accounted) (reply : Reply R)
    (running : l.course.supervisor.runner.isRunning = true)
    (taken : ∀ choice k, l.course.run = .sending choice k → reply = .ok) :
    ∀ e ∈ settle l.course.run reply l.entries, e.Delivered := by
  rcases accounted.running running with delivered | ⟨⟨choice, k, waits⟩, under_way⟩
  · rw [settle_delivered delivered]
    exact delivered
  · rw [waits, taken choice k waits]
    intro e mem
    obtain ⟨f, before, rfl⟩ := List.mem_map.mp mem
    exact answer_taken (under_way f before)

omit [Scalar R] [DecidableEq R] in
theorem undriven_calm {l : Ledger R} (accounted : l.Accounted) {s : Supervisor R}
    (undriven : l.course.supervisor.Undriven s) (failed : s.status = .failsafe) :
    s.runner.isRunning = false := by
  rcases undriven.calm failed with before | rest
  · cases running : s.runner.isRunning with
    | false => rfl
    | true => cases (accounted.calm before).symm.trans (undriven.eases.running running)
  · exact rest

omit [Scalar R] [DecidableEq R] in
theorem called_accounted {l : Ledger R} (accounted : l.Accounted) {s : Supervisor R}
    (undriven : l.course.supervisor.Undriven s) :
    Accounted { l with course := { l.course with supervisor := s } } where
  calm := undriven_calm accounted undriven
  outside := accounted.outside
  running running := accounted.running (undriven.eases.running running)
  done done := accounted.done (undriven.eases.succeeded done)

omit [Scalar R] [DecidableEq R] in
theorem undriven_accounted {l : Ledger R} (accounted : l.Accounted) {reply : Reply R}
    {c : Course R} (undriven : l.course.supervisor.Undriven c.supervisor)
    (taken : c.supervisor.runner.isRunning = true →
      ∀ choice k, l.course.run = .sending choice k → reply = .ok) :
    Accounted { l with course := c, entries := settle l.course.run reply l.entries } where
  calm := undriven_calm accounted undriven
  outside := accounted.outside
  running running :=
    .inl (settled_delivered accounted reply (undriven.eases.running running) (taken running))
  done done := settle_done (accounted.done (undriven.eases.succeeded done)) _ reply

theorem plan_tick_accounted {l : Ledger R} (accounted : l.Accounted) (m : Run.Moment R)
    (reply : Reply R) {s : Supervisor R}
    (ticks : Run.ticksFrom m l.course.supervisor l.course.run reply = some s) (plan : s.TicksPlan) :
    Accounted { l with
      course := l.course.step (.answer m reply), tickedIn := l.tickedIn ++ [s.status]
      entries := settle l.course.run reply l.entries ++
        enter (s.runner.tickAt m.plan s.sampler.slot.value).result
          (l.course.run.resume m l.course.supervisor reply).request } := by
  obtain ⟨⟨k, notes, resumed⟩, running, runner, status, elsewhere⟩ := Run.tick_turn ticks
  have runs : l.course.supervisor.runner.isRunning = true := runner ▸ plan.2
  have outside : s.status ≠ .failsafe := by
    intro failed
    cases (accounted.calm (status failed)).symm.trans runs
  -- no command is open when a tick begins: the one before it was answered, or was not sent
  have delivered := settled_delivered accounted reply runs
    fun choice k waits => absurd waits (elsewhere choice k)
  obtain ⟨goes_on, ends⟩ := Run.plan_tick (m := m) (k := k) running plan outside
  have supervisor : (l.course.step (.answer m reply)).supervisor =
      (Run.nextTick m s k).supervisor := congrArg (·.supervisor) resumed
  have run : (l.course.step (.answer m reply)).run = (Run.nextTick m s k).run :=
    congrArg (·.run) resumed
  have request : (l.course.run.resume m l.course.supervisor reply).request =
      (Run.nextTick m s k).request := congrArg (·.request) resumed
  rw [request]
  constructor
  · intro failed
    rw [supervisor] at failed ⊢
    cases still : (Run.nextTick m s k).supervisor.runner.isRunning with
    | false => rfl
    | true => exact absurd failed (goes_on still).1
  · intro inside
    rcases List.mem_append.mp inside with before | last
    · exact accounted.outside before
    · exact outside (List.mem_singleton.mp last).symm
  · intro still
    rw [supervisor] at still
    have sends := (goes_on still).2
    cases given : (s.runner.tickAt m.plan s.sampler.slot.value).result with
    | error why => exact .inl (by simpa [enter] using delivered)
    | ok x =>
      cases x with
      | none => exact .inl (by simpa [enter] using delivered)
      | some c =>
        obtain ⟨_, choice, sending⟩ := sends c given
        rw [← given]
        refine .inr ⟨⟨choice, k, run.trans sending⟩, ?_⟩
        intro e mem
        rcases List.mem_append.mp mem with before | last
        · exact .inr (delivered e before)
        · exact .inl (enter_waits (fun c gave => (sends c gave).1) e last)
  · intro done
    rw [supervisor] at done
    exact enter_done delivered (ends done) _

theorem turn_accounted {l : Ledger R} (accounted : l.Accounted) (m : Run.Moment R)
    (reply : Reply R) : (l.turn m reply).Accounted := by
  have turned := Run.resume_turn m l.course.supervisor l.course.run reply
  unfold turn
  dsimp only
  cases ticks : Run.ticksFrom m l.course.supervisor l.course.run reply with
  | none =>
    refine undriven_accounted accounted (Run.undriven_turn ticks turned) ?_
    intro running choice k waits
    rw [waits] at turned
    refine Run.running_command_was_taken turned ?_
    rw [← waits]
    exact running
  | some s =>
    obtain ⟨⟨k, notes, resumed⟩, running, runner, status, elsewhere⟩ := Run.tick_turn ticks
    have supervisor : (l.course.step (.answer m reply)).supervisor =
        (Run.nextTick m s k).supervisor := congrArg (·.supervisor) resumed
    dsimp only
    by_cases plan : s.TicksPlan
    · rw [if_pos plan]
      exact plan_tick_accounted accounted m reply ticks plan
    · rw [if_neg plan]
      have undriven := Run.foreign_tick (m := m) (k := k) running plan
      rw [← supervisor] at undriven
      refine undriven_accounted accounted (Run.undriven_of_kept undriven runner status) ?_
      intro _ choice k waits
      exact absurd waits (elsewhere choice k)

theorem turn_startedIn (l : Ledger R) (m : Run.Moment R) (reply : Reply R) :
    (l.turn m reply).startedIn = l.startedIn := by
  unfold turn
  dsimp only
  split
  · rfl
  · split <;> rfl

theorem turn_course (l : Ledger R) (m : Run.Moment R) (reply : Reply R) :
    (l.turn m reply).course = l.course.step (.answer m reply) := by
  unfold turn
  dsimp only
  split
  · rfl
  · split <;> rfl

theorem step_course (l : Ledger R) (e : Event R) : (l.step e).course = l.course.step e := by
  unfold step
  split
  · split <;> rfl
  · exact l.turn_course _ _
  · rfl

theorem after_course (events : List (Event R)) (l : Ledger R) :
    (l.after events).course = l.course.after events := by
  induction events generalizing l with
  | nil => rfl
  | cons e rest ih => exact (ih (l.step e)).trans (congrArg (Course.after · rest) (l.step_course e))

theorem step_accounted {l : Ledger R} (e : Event R)
    (gentle : ∀ r, e = .upset r → l.course.supervisor.runner.Eases r)
    (before : l.startedIn = .failsafe ∨ l.Accounted) :
    (l.step e).startedIn = .failsafe ∨ (l.step e).Accounted := by
  have called {c : Call R} (undriven : l.course.supervisor.Undriven (l.course.supervisor.obey c)) :
      l.startedIn = .failsafe ∨ Accounted { l with course := l.course.step (.call c) } :=
    before.imp id fun accounted => called_accounted accounted undriven
  cases e with
  | answer m reply =>
    refine before.imp ?_ fun accounted => turn_accounted accounted m reply
    intro failsafe
    exact (l.turn_startedIn m reply).trans failsafe
  | upset r =>
    refine before.imp id fun accounted => called_accounted accounted ?_
    exact ⟨gentle r rfl, .inl⟩
  | call c =>
    cases c with
    | setMode m => exact called (Supervisor.setMode_undriven _ m)
    | cancelPlan => exact called ⟨Runner.cancel_eases _, .inl⟩
    | stop => exact called ⟨.refl _, .inl⟩
    | hear p => exact called ⟨.refl _, .inl⟩
    | startPlan items heading =>
      cases started : (l.course.supervisor.startPlan items heading).result with
      | error why =>
        simp only [step, started]
        exact called (Supervisor.failed_start_undriven started)
      | ok u =>
        simp only [step, started]
        by_cases failsafe : l.course.supervisor.status = .failsafe
        · exact .inl failsafe
        · refine .inr ⟨?_, by simp, fun _ => .inl (by simp), fun _ => delivered_done (by simp)⟩
          intro failed
          exact absurd ((l.course.supervisor.obey_status _).symm.trans failed) failsafe

theorem after_accounted (events : List (Event R)) {l : Ledger R}
    (undisturbed : l.course.Undisturbed events) (before : l.startedIn = .failsafe ∨ l.Accounted) :
    (l.after events).startedIn = .failsafe ∨ (l.after events).Accounted := by
  induction events generalizing l with
  | nil => exact before
  | cons e rest ih =>
    refine ih ?_ (step_accounted e undisturbed.1 before)
    rw [step_course]
    exact undisturbed.2

omit [Scalar R] [DecidableEq R] in
theorem begin_accounted (s : Supervisor R) (interface : String) :
    (begin s interface).startedIn = .failsafe ∨ (begin s interface).Accounted := by
  by_cases failsafe : s.status = .failsafe
  · exact .inl failsafe
  · exact .inr ⟨fun failed => absurd failed failsafe, by simp [begin], fun _ => .inl (by simp [begin]),
      fun _ => delivered_done (by simp [begin])⟩

end Ledger

theorem Mission.code_zero_succeeds {h : House} {w : Mission.State}
    (closed : (lookAtPlan h w).2.1.activity = .closing (.code 0)) :
    h.supervisor.runner.succeeded = true := by
  have line (h : House) (text : String) : (h.print text).supervisor = h.supervisor := rfl
  unfold lookAtPlan at closed
  split at closed
  · unfold reportPlan at closed
    cases done : h.supervisor.runner.succeeded with
    | true => rfl
    | false =>
      cases pose : h.supervisor.sampler.slot.value with
      | none => simp [pose, done, close] at closed
      | some p => simp [pose, done, line, close] at closed
  · cases closed

namespace Ledger

/-- A plan that was started outside failsafe and has succeeded had none of its ticks in failsafe, and
each of its commands was taken by the robot, but perhaps the stop that it ended with. -/
theorem plan_that_succeeds_was_delivered (s : Supervisor Float) (interface : String)
    (events : List (Event Float)) (undisturbed : (Course.begin s interface).Undisturbed events) :
    let l := (begin s interface).after events
    let driven := l.startedIn = .failsafe ∨ .failsafe ∉ l.tickedIn ∧ Done l.entries
    l.course = (Course.begin s interface).after events ∧
      (l.course.supervisor.runner.succeeded = true → driven) ∧
      ∀ (h : House) (w : Mission.State), h.supervisor = l.course.supervisor →
        (Mission.lookAtPlan h w).2.1.activity = .closing (.code 0) →
          l.course.supervisor.runner.succeeded = true ∧ driven := by
  intro l driven
  have accounted := after_accounted events (l := begin s interface) undisturbed
    (begin_accounted s interface)
  have succeeds (done : l.course.supervisor.runner.succeeded = true) : driven :=
    accounted.imp id fun accounted => ⟨accounted.outside, accounted.done done⟩
  refine ⟨after_course events _, succeeds, ?_⟩
  intro h w same closed
  have done : l.course.supervisor.runner.succeeded = true := by
    rw [← same]
    exact Mission.code_zero_succeeds closed
  exact ⟨done, succeeds done⟩

def shortTravel (first last : List (Reply Float)) : List (Event Float) :=
  [.answer (.frozen 0 true) .ok, .answer (.frozen 0 true) .ok] ++
    first.map (.answer (.frozen 0 true)) ++
    [.call (.hear ⟨0, 0, 0, 0, 0⟩), .call (.startPlan [.segment (.travel 0.1)] none),
      .answer (.frozen 0.01 true) .ok, .answer (.frozen 0.01 true) .ok, .answer (.frozen 1 true) .ok] ++
    last.map (.answer (.frozen 1 true))

theorem short_travel_was_delivered :
    let events := shortTravel [.ok] [.ok]
    let l := (begin (.standard 0 []) "sim").after events
    (Course.begin (.standard 0 []) "sim").Undisturbed events ∧
      l.course.supervisor.runner.succeeded = true ∧ l.startedIn = .active ∧
      l.entries.length = 2 ∧ .failsafe ∉ l.tickedIn ∧ Done l.entries := by
  intro events
  have undisturbed : (Course.begin (.standard 0 []) "sim").Undisturbed events :=
    Course.undisturbed (by simp [events, shortTravel]) _
  have law := plan_that_succeeds_was_delivered (.standard 0 []) "sim" events undisturbed
  have facts : let l := (begin (.standard 0 []) "sim").after events
      l.course.supervisor.runner.succeeded = true ∧ l.startedIn = .active ∧
        l.entries.length = 2 := by decide +kernel
  generalize (begin (.standard 0 []) "sim").after events = l at law facts ⊢
  obtain ⟨done, active, two⟩ := facts
  rcases law.2.1 done with failsafe | driven
  · rw [active] at failsafe
    cases failsafe
  · exact ⟨undisturbed, done, active, two, driven⟩

/-- The plan succeeds all the same where the robot refuses the stop that it ends with, and where it is
driven in failsafe and none of its velocities goes out. -/
theorem success_does_not_mean_delivered :
    let refused := (begin (.standard 0 []) "sim").after
      (shortTravel [.ok] [.raised (.breakdown .send)])
    let withheld := (begin (.standard 0 []) "sim").after
      (shortTravel [.raised (.breakdown .send), .ok] [.ok])
    (refused.course.supervisor.runner.succeeded = true ∧ refused.startedIn = .active ∧
        refused.entries.getLast? = some ⟨.stop, .answered (.raised (.breakdown .send))⟩) ∧
      withheld.course.supervisor.runner.succeeded = true ∧
        withheld.tickedIn = [.failsafe, .failsafe] ∧
        withheld.entries.head? = some ⟨.velocity ⟨0.5, 0, 0⟩, .lost⟩ := by
  decide +kernel

end Ledger
end Quadruped
