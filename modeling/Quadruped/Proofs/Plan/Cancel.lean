import Quadruped.Number.Double
import Quadruped.Proofs.Plan.Flight
import Quadruped.Proofs.Plan.Rest

/-!
The cancel of a plan. It owes one stop, which the next tick gives; from then on the ticks give
nothing. Neither poses nor the clock nor another cancel can change that, only a start.
-/
namespace Quadruped

namespace Runner

/-- A runner whose plan was cancelled, with its one stop owed or given. -/
structure Cancelled {R : Type} (r : Runner R) (owed : Bool) : Prop where
  phase : r.phase = .cancelled
  pending : r.stopPending = owed

/-- A runner with nothing left to give. -/
structure Spent {R : Type} (r : Runner R) : Prop where
  rest : r.isRunning = false
  drained : r.phase = .cancelled → r.stopPending = false

section
variable {R : Type} {r : Runner R} {owed : Bool}

theorem cancel_owes (running : r.isRunning = true) : r.cancel.1.Cancelled true := by
  unfold cancel
  rw [if_pos running]
  exact ⟨rfl, rfl⟩

theorem cancel_at_rest (rest : r.isRunning = false) : r.cancel = (r, []) := by
  unfold cancel
  rw [if_neg (by simp [rest])]

theorem cancelled_at_rest (cancelled : r.Cancelled owed) : r.isRunning = false := by
  simp [isRunning, cancelled.phase]

theorem cancelled_not_succeeded (cancelled : r.Cancelled owed) : r.succeeded = false := by
  simp [succeeded, cancelled.phase]

theorem cancelled_finished (cancelled : r.Cancelled owed) : r.isFinished = !owed := by
  simp [isFinished, cancelled_not_succeeded cancelled, cancelled.phase, cancelled.pending]

theorem cancelled_spent (cancelled : r.Cancelled false) : r.Spent :=
  ⟨cancelled_at_rest cancelled, fun _ => cancelled.pending⟩

theorem tickAt_spent [Scalar R] (spent : r.Spent) (t : Instants R) (sample : Option (Pose R)) :
    (r.tickAt t sample).state = r ∧ (r.tickAt t sample).result = .ok none := by
  unfold tickAt
  by_cases cancelled : r.phase = .cancelled
  · rw [if_pos cancelled, spent.drained cancelled]
    exact ⟨rfl, rfl⟩
  · rw [if_neg cancelled, spent.rest]
    exact ⟨rfl, rfl⟩

theorem tickAt_cancelled [Scalar R] (cancelled : r.Cancelled owed) (t : Instants R)
    (sample : Option (Pose R)) :
    (r.tickAt t sample).state.Cancelled false ∧
      (r.tickAt t sample).result = .ok (if owed then some .stop else none) := by
  unfold tickAt
  rw [if_pos cancelled.phase, cancelled.pending]
  cases owed with
  | true => exact ⟨⟨cancelled.phase, rfl⟩, rfl⟩
  | false => exact ⟨cancelled, rfl⟩

end

end Runner

namespace Pilot

variable {R : Type} [Scalar R] {p : Pilot R} {owed : Bool}

theorem cancel_runner {R : Type} (p : Pilot R) : p.cancel.1.runner = p.runner.cancel.1 := rfl

theorem act_cancelled (cancelled : p.runner.Cancelled owed) {a : Act R} (keeps : a.starts = false) :
    (p.act a).1.runner.Cancelled (owed && !a.isTick) ∧
      (p.act a).2 = if a.isTick then [.ok (if owed then some .stop else none)] else [] := by
  cases a with
  | hear pose => simpa [act, Act.isTick, hear] using cancelled
  | start items heading => cases keeps
  | cancel =>
    have same := Runner.cancel_at_rest (Runner.cancelled_at_rest cancelled)
    simpa [act, Act.isTick, Pilot.cancel, same] using cancelled
  | tick t =>
    obtain ⟨drained, given⟩ := Runner.tickAt_cancelled cancelled t p.sampler.slot.value
    refine ⟨by simpa [act, tickAt, Act.isTick] using drained, ?_⟩
    simpa [act, tickAt, Act.isTick] using given

theorem fly_spent (spent : p.runner.Spent) {acts : List (Act R)}
    (keep : ∀ a ∈ acts, a.starts = false) :
    (p.fly acts).1.runner = p.runner ∧
      (p.fly acts).2 = List.replicate (acts.countP Act.isTick) (.ok none) := by
  apply fly_untouched
  intro q same a member
  have keeps := keep a member
  cases a with
  | hear pose => exact ⟨same, rfl⟩
  | start items heading => cases keeps
  | cancel =>
    rw [← same] at spent ⊢
    exact ⟨congrArg Prod.fst (Runner.cancel_at_rest spent.rest), rfl⟩
  | tick t =>
    rw [← same] at spent ⊢
    obtain ⟨unmoved, given⟩ := Runner.tickAt_spent spent t q.sampler.slot.value
    exact ⟨unmoved, congrArg (fun result => [result]) given⟩

theorem fly_drained (drained : p.runner.Cancelled false) {acts : List (Act R)}
    (keep : ∀ a ∈ acts, a.starts = false) :
    (p.fly acts).1.runner.Cancelled false ∧
      (p.fly acts).2 = List.replicate (acts.countP Act.isTick) (.ok none) := by
  obtain ⟨same, given⟩ := fly_spent (Runner.cancelled_spent drained) keep
  exact ⟨same ▸ drained, given⟩

theorem fly_cancelled (cancelled : p.runner.Cancelled true) {acts : List (Act R)}
    (keep : ∀ a ∈ acts, a.starts = false) :
    (p.fly acts).1.runner.Cancelled (acts.countP Act.isTick == 0) ∧
      (p.fly acts).2 =
        (.ok (some .stop) :: List.replicate (acts.countP Act.isTick) (.ok none)).take
          (acts.countP Act.isTick) := by
  induction acts generalizing p with
  | nil => exact ⟨cancelled, rfl⟩
  | cons a rest ih =>
    obtain ⟨keeps, others⟩ := List.forall_mem_cons.mp keep
    obtain ⟨stays, given⟩ := act_cancelled cancelled keeps
    rw [fly_cons, given]
    cases tick : a.isTick with
    | true =>
      rw [tick] at stays
      obtain ⟨after, later⟩ := fly_drained stays others
      refine ⟨by simpa [tick] using after, ?_⟩
      rw [later]
      simp [tick]
    | false =>
      rw [tick] at stays
      obtain ⟨after, later⟩ := ih stays others
      refine ⟨by simpa [tick] using after, ?_⟩
      rw [later]
      simp [tick]

/-- A plan that runs, wherever it stands, gives one stop after its cancel, at the next tick, and
nothing from then on. It is over once that stop is given, and it has not succeeded. Where no plan runs
a cancel does nothing. -/
theorem cancel_gives_one_stop (p : Pilot R) :
    (p.runner.isRunning = true → ∀ acts : List (Act R), (∀ a ∈ acts, a.starts = false) →
      let ticks := acts.countP Act.isTick
      let ended := p.cancel.1.fly acts
      ended.2 = (.ok (some .stop) :: List.replicate ticks (.ok none)).take ticks ∧
        ended.1.runner.isFinished = decide (0 < ticks) ∧ ended.1.runner.succeeded = false) ∧
      (p.runner.isRunning = false → p.cancel = (p, [])) := by
  constructor
  · intro running acts keep ticks ended
    have owes := Runner.cancel_owes running
    rw [← cancel_runner] at owes
    obtain ⟨cancelled, given⟩ := fly_cancelled owes keep
    refine ⟨given, ?_, Runner.cancelled_not_succeeded cancelled⟩
    rw [Runner.cancelled_finished cancelled]
    cases count : acts.countP Act.isTick <;> simp [ticks, count]
  · intro rest
    simp [Pilot.cancel, Runner.cancel_at_rest rest]

theorem cancelled_travel_gives_one_stop :
    let p := ((ofRunner .standard).fly [.start [.segment (.travel 10)] none,
      .hear ⟨0, 0, 0, 0, 0⟩, .tick ⟨0, 0, 0⟩]).1
    let acts : List (Act Float) := [.cancel, .hear ⟨1, 0, 0, 3, 0.1⟩, .tick ⟨0.1, 0.1, 0.1⟩, .cancel,
      .tick ⟨30, 30, 30⟩]
    p.runner.isRunning = true ∧ p.runner.active = true ∧ (∀ a ∈ acts, a.starts = false) ∧
      (p.cancel.1.fly acts).2 = [.ok (some .stop), .ok none] ∧
      (p.cancel.1.fly acts).1.runner.isFinished = true ∧ p.cancel.1.cancel = (p.cancel.1, []) := by
  intro p acts
  have running : p.runner.isRunning = true := by decide +kernel
  have keep : ∀ a ∈ acts, a.starts = false := by simp [acts, Act.starts]
  have rest : p.cancel.1.runner.isRunning = false := by
    rw [cancel_runner]
    exact Runner.cancel_rests p.runner
  have ticks : acts.countP Act.isTick = 2 := rfl
  obtain ⟨given, finished, _⟩ := (cancel_gives_one_stop p).1 running acts keep
  rw [ticks] at given finished
  exact ⟨running, by decide +kernel, keep, given, finished, (cancel_gives_one_stop p.cancel.1).2 rest⟩

end Pilot
end Quadruped
