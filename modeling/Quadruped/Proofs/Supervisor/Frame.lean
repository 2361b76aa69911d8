import Quadruped.Proofs.Outcome
import Quadruped.Supervisor.Run

/-!
What each operation of a supervisor leaves alone. Every lemma names the fields that an operation may
change; all others are as they were.
-/
namespace Quadruped.Supervisor

variable {R : Type}

theorem setMode_cases (s : Supervisor R) (m : Mode) :
    (s.setMode m).1 = { s with mode := ⟨m⟩ } ∧
        (s.mode.value.kind = .autonomous → m.kind = .autonomous) ∨
      (s.setMode m).1 = { s with mode := ⟨m⟩, runner := s.runner.cancel.1 } ∧
        s.mode.value.kind = .autonomous ∧ m.kind ≠ .autonomous := by
  unfold setMode
  dsimp only [Cell.swap]
  split
  · rename_i same
    exact .inl ⟨rfl, fun kind => same ▸ kind⟩
  · split
    · rename_i leaves
      simp only [Bool.and_eq_true, decide_eq_true_eq] at leaves
      exact .inr ⟨rfl, leaves⟩
    · rename_i stays
      refine .inl ⟨rfl, ?_⟩
      intro kind
      simpa [kind] using stays

theorem setMode_only (s : Supervisor R) (m : Mode) :
    ∃ runner, (s.setMode m).1 = { s with mode := ⟨m⟩, runner } := by
  rcases s.setMode_cases m with ⟨eq, _⟩ | ⟨eq, _⟩
  · exact ⟨s.runner, eq⟩
  · exact ⟨s.runner.cancel.1, eq⟩

theorem startPlan_fails [Scalar R] {s : Supervisor R} {items : List (PlanItem R)}
    {heading : Option R} {why : Fault R}
    (failed : (s.runner.start items heading).result = .error why) :
    (s.startPlan items heading).state =
        { s with runner := (s.runner.start items heading).state } ∧
      (s.startPlan items heading).result = .error why := by
  have first : ((s.runner.start items heading).within
      fun runner => { s with runner }).result = .error why := failed
  exact Outcome.andThen_after_error first _

theorem startPlan_succeeds [Scalar R] {s : Supervisor R} {items : List (PlanItem R)}
    {heading : Option R} (started : (s.runner.start items heading).result = .ok ()) :
    (s.startPlan items heading).state =
        (setMode { s with runner := (s.runner.start items heading).state } .autonomous).1 ∧
      (s.startPlan items heading).result = .ok () := by
  have first : ((s.runner.start items heading).within
      fun runner => { s with runner }).result = .ok () := started
  exact Outcome.andThen_after_ok first _

theorem startPlan_only [Scalar R] (s : Supervisor R) (items : List (PlanItem R))
    (heading : Option R) :
    ∃ mode runner, (s.startPlan items heading).state = { s with mode, runner } := by
  cases started : (s.runner.start items heading).result with
  | error why =>
    exact ⟨s.mode, (s.runner.start items heading).state, (startPlan_fails started).1⟩
  | ok u =>
    obtain ⟨runner, eq⟩ := setMode_only { s with runner := (s.runner.start items heading).state }
      .autonomous
    exact ⟨⟨.autonomous⟩, runner, (startPlan_succeeds started).1.trans eq⟩

theorem transition_only (s : Supervisor R) (now : R) (new : Status) :
    ∃ activated told, (s.transition now new).1 = { s with status := new, activated, told } := by
  unfold transition
  split
  · rename_i same
    exact ⟨s.activated, s.told, by rw [same]⟩
  · exact ⟨_, _, rfl⟩

@[simp] theorem transition_status (s : Supervisor R) (now : R) (new : Status) :
    (s.transition now new).1.status = new := by
  obtain ⟨activated, told, eq⟩ := s.transition_only now new
  rw [eq]

theorem tickPlan_only [Scalar R] (s : Supervisor R) (now : Instants R) :
    ∃ runner, (s.tickPlan now).state = { s with runner } := by
  unfold tickPlan
  split
  · exact ⟨_, rfl⟩
  · split
    · apply Outcome.andThen_keeps fun t : Supervisor R => ∃ runner, t = { s with runner }
      · exact ⟨(s.runner.tickAt now s.sampler.slot.value).state, rfl⟩
      · intro _
        exact ⟨(s.runner.tickAt now s.sampler.slot.value).state, rfl⟩
    · exact ⟨s.runner, rfl⟩

theorem choose_only [Scalar R] (s : Supervisor R) (now : Instants R) :
    ∃ runner dispatch, (s.choose now).state = { s with runner, dispatch } := by
  obtain ⟨runner, plan⟩ := tickPlan_only s now
  unfold choose
  apply Outcome.andThen_keeps fun t : Supervisor R => ∃ runner dispatch, t = { s with runner, dispatch }
  · exact ⟨runner, s.dispatch, plan⟩
  · intro command
    rw [plan]
    dsimp only
    split
    · exact ⟨runner, s.dispatch, rfl⟩
    · apply Outcome.andThen_keeps fun t : Supervisor R => ∃ runner dispatch, t = { s with runner, dispatch }
      · exact ⟨runner, (s.dispatch.map s.currentMode command).state, rfl⟩
      · intro _
        exact ⟨runner, (s.dispatch.map s.currentMode command).state, rfl⟩

theorem wire_only (s : Supervisor R) (c : Command R) :
    ∃ latched, (s.wire c).1 = { s with latched } := by
  cases c with
  | velocity v => exact ⟨none, rfl⟩
  | posture p =>
    unfold wire
    dsimp only
    split
    · exact ⟨some p, rfl⟩
    · exact ⟨none, rfl⟩

theorem settle_only (s : Supervisor R) (m : Mode) :
    ∃ mode, (s.settle m).1 = { s with mode, ticks := s.ticks + 1 } := by
  unfold settle
  dsimp only
  split
  · exact ⟨_, rfl⟩
  · exact ⟨s.mode, rfl⟩

end Quadruped.Supervisor
