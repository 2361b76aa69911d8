import Quadruped.Cli.Operate
import Quadruped.Proofs.Plan.Route
import Quadruped.Proofs.Plan.Start
import Quadruped.Proofs.Robot
import Quadruped.Proofs.Supervisor.ModeRace

/-!
What an accepted route is worth. Whether a text is accepted does not depend on the heading it starts
with, and the plan that comes of it passes every later check. So the check before the robot is
touched, with heading zero, stands for the start with whatever heading the robot turns out to have.
-/
namespace Quadruped

open Number Text

namespace Route

/-- The route that a text stands for: blanks around a name do not matter, nor do capitals. -/
def Means (text : String) (route : List Char) : Prop :=
  (∃ named ∈ namedRoutes, named.1.toList = lower (strip text.toList) ∧ route = named.2.toList) ∨
    (∀ named ∈ namedRoutes, named.1.toList ≠ lower (strip text.toList)) ∧ route = text.toList

instance (text : String) (route : List Char) : Decidable (Means text route) :=
  inferInstanceAs (Decidable (_ ∨ _ ∧ _))

/-- A plan that runs as it stands: one segment for each token, every heading in its range. -/
structure Ready (route : List Char) (plan : List (Segment Float)) : Prop where
  passes : Plan.check (plan.map .segment) = .ok plan
  each : List.Forall₂ (fun t segment => ∃ step, readStep t = .ok step ∧ Becomes step segment)
    (filled route) plan
  wrapped : ∀ h, .turn h ∈ plan → Angle.Wrapped h

theorem means_lookup (text : String) : Means text (lookup text) := by
  unfold lookup
  dsimp only
  split
  · rename_i named found
    have same := List.find?_some found
    refine .inl ⟨named, List.mem_of_find?_eq_some found, ?_, rfl⟩
    rw [beq_iff_eq.mp same, String.toList_ofList]
  · rename_i missing
    refine .inr ⟨fun named listed same => List.find?_eq_none.mp missing named listed ?_, rfl⟩
    rw [← same, String.ofList_toList]
    exact beq_self_eq_true _

theorem Means.same {text : String} {a b : List Char} (one : Means text a) (other : Means text b) :
    a = b := by
  have distinct : ∀ m ∈ namedRoutes, ∀ n ∈ namedRoutes, m.1.toList = n.1.toList → m = n := by
    decide +kernel
  rcases one with ⟨m, listed, name, rfl⟩ | ⟨unlisted, rfl⟩ <;>
    rcases other with ⟨n, listed', name', rfl⟩ | ⟨unlisted', rfl⟩
  · rw [distinct m listed n listed' (name.trans name'.symm)]
  · exact absurd name (unlisted' m listed)
  · exact absurd name' (unlisted n listed')
  · rfl

theorem checkFrom_runnable {plan : List (Segment Float)}
    (runs : ∀ segment ∈ plan, Runnable segment) (index : ℕ) :
    Plan.checkFrom index (plan.map .segment) = .ok plan := by
  induction plan generalizing index with
  | nil => rfl
  | cons segment plan ih =>
    rw [List.forall_mem_cons] at runs
    have item : Plan.checkItem index (.segment segment) = .ok segment := by
      cases segment with
      | turn h => exact if_pos runs.1.finite
      | travel d =>
        have far : (!decide (d ≤ 0)) = true := congrArg (!·) (decide_eq_false runs.1.2)
        exact if_pos (Bool.and_eq_true_iff.mpr ⟨runs.1.1, far⟩)
    rw [List.map_cons, Plan.checkFrom, item, ih runs.2]
    rfl

theorem check_runnable {plan : List (Segment Float)} (some_segment : plan ≠ [])
    (runs : ∀ segment ∈ plan, Runnable segment) :
    Plan.check (plan.map .segment) = .ok plan := by
  unfold Plan.check
  rw [if_neg (by simpa using some_segment), checkFrom_runnable runs]

theorem steps_fair {tokens : List (List Char)} {steps : List (RouteStep Float)}
    (each : List.Forall₂ (fun t step => readStep t = .ok step) tokens steps) :
    ∀ step ∈ steps, Fair step := by
  induction each with
  | nil => simp
  | cons first _ ih => exact List.forall_mem_cons.mpr ⟨readStep_fair first, ih⟩

theorem tokens_become {tokens : List (List Char)} {steps : List (RouteStep Float)}
    {plan : List (Segment Float)}
    (each : List.Forall₂ (fun t step => readStep t = .ok step) tokens steps)
    (resolved : List.Forall₂ Becomes steps plan) :
    List.Forall₂ (fun t segment => ∃ step, readStep t = .ok step ∧ Becomes step segment)
      tokens plan := by
  induction each generalizing plan with
  | nil =>
    cases resolved
    exact .nil
  | cons first _ ih =>
    cases resolved with
    | cons one later => exact .cons ⟨_, first, one⟩ (ih later)

section
variable {text : String} {heading : Float}

theorem build_refused {why : PlanFault Float} (refused : read (lookup text) = .error why)
    (heading : Float) : (build text heading).1 = .error (.plan why) := by
  unfold build
  rw [refused]

theorem build_ready {steps : List (RouteStep Float)} (made : read (lookup text) = .ok steps)
    (finite : isFinite heading = true) :
    ∃ plan, (build text heading).1 = .ok plan ∧ Ready (lookup text) plan := by
  obtain ⟨some_token, each⟩ := read_ok_iff.mp made
  obtain ⟨plan, resolved, becomes, runs⟩ := resolve_fair (steps_fair each) finite
  have ready := tokens_become each becomes
  refine ⟨plan, ?_, check_runnable ?_ runs, ready, fun h member => runs _ member⟩
  · unfold build
    rw [made]
    dsimp only
    rw [resolved]
  · rintro rfl
    exact some_token (List.forall₂_nil_right_iff.mp ready)

theorem build_accepts_iff (finite : isFinite heading = true) :
    (∃ plan, (build text heading).1 = .ok plan) ↔ filled (lookup text) ≠ [] ∧
      ∀ t ∈ filled (lookup text), ∃ step, readStep t = .ok step := by
  rw [← forall₂_ok_exists, ← exists_and_left]
  simp only [← read_ok_iff]
  constructor
  · rintro ⟨plan, built⟩
    cases made : read (lookup text) with
    | error why => cases (build_refused made heading).symm.trans built
    | ok steps => exact ⟨steps, rfl⟩
  · rintro ⟨steps, made⟩
    obtain ⟨plan, built, _⟩ := build_ready made finite
    exact ⟨plan, built⟩

end

end Route

namespace Runner

theorem start_ready {r : Runner Float} {plan : List (Segment Float)} {heading : Float}
    (passes : Plan.check (plan.map .segment) = .ok plan) (finite : isFinite heading = true) :
    (r.start (plan.map .segment) (some heading)).result =
      if r.isRunning then .error .planRunning else .ok () := by
  obtain ⟨h, faces, _⟩ := Angle.normalize_wrapped finite
  unfold start
  rw [passes]
  dsimp only
  split
  · rfl
  · rw [faces]
    rfl

end Runner

theorem Supervisor.startPlan_ready {s : Supervisor Float} {plan : List (Segment Float)}
    {heading : Float} (passes : Plan.check (plan.map .segment) = .ok plan)
    (finite : isFinite heading = true) :
    (s.startPlan (plan.map .segment) (some heading)).result =
      if s.runner.isRunning then .error .planRunning else .ok () := by
  have started := Runner.start_ready (r := s.runner) passes finite
  cases running : s.runner.isRunning <;> rw [running] at started
  · exact (startPlan_succeeds started).2
  · exact (startPlan_fails started).2

theorem Mission.startPlan_ready {text : String} {yaw : Float} {route : List Char}
    {plan : List (Segment Float)} (built : (Route.build text yaw).1 = .ok plan)
    (ready : Route.Ready route plan) (finite : isFinite yaw = true) {h : House}
    (rest : h.supervisor.runner.isRunning = false) (s : State) :
    ∃ h' : House, startPlan h s text yaw = lookAtPlan h' s ∧
      h'.supervisor.runner.isRunning = true := by
  have begun := Supervisor.startPlan_ready (s := h.supervisor) ready.passes finite
  rw [rest] at begun
  have runs := Supervisor.startPlan_runs begun
  unfold startPlan
  dsimp only
  rw [built]
  dsimp only
  split
  · rename_i why failed
    cases failed.symm.trans begun
  · exact ⟨_, rfl, runs⟩

open Cli in
theorem Cli.Operate.checkPlan_builds {r : Operate.Request} {text : String}
    (mode : r.mode = some "plan") (plan : r.plan = some text)
    (passed : (Operate.checkPlan r).2 = .ok ()) : ∃ first, (Route.build text 0).1 = .ok first := by
  unfold Operate.checkPlan at passed
  rw [mode, plan, if_pos (by decide)] at passed
  cases built : (Route.build text 0).1 with
  | error why =>
    dsimp only at passed
    rw [built] at passed
    cases passed
  | ok first => exact ⟨first, rfl⟩

/-- A text is accepted where its route has tokens and each of them writes a step, whatever the heading,
and its plan is then ready to run. So once the check before the robot is touched has passed, neither
the plan that is made later nor its start is refused. -/
theorem accepted_route_is_ready_from_any_heading (text : String) :
    (∃ route, Route.Means text route) ∧ ∀ route, Route.Means text route →
      (∀ heading, isFinite heading = true →
        (∃ why, (Route.build text heading).1 = .error (.plan why)) ∨
          ∃ plan, (Route.build text heading).1 = .ok plan ∧ Route.Ready route plan) ∧
      (∀ heading, isFinite heading = true →
        ((∃ plan, (Route.build text heading).1 = .ok plan) ↔ Route.filled route ≠ [] ∧
          ∀ t ∈ Route.filled route, ∃ step, Route.readStep t = .ok step)) ∧
      (∀ heading other, isFinite heading = true → isFinite other = true → ∀ fault,
        (Route.build text heading).1 = .error fault ↔ (Route.build text other).1 = .error fault) ∧
      ∀ r : Cli.Operate.Request, r.mode = some "plan" → r.plan = some text →
        (Cli.Operate.checkPlan r).2 = .ok () → ∀ yaw, isFinite yaw = true →
          ∃ plan, (Route.build text yaw).1 = .ok plan ∧ Route.Ready route plan ∧
            (∀ s : Supervisor Float, (s.startPlan (plan.map .segment) (some yaw)).result =
              if s.runner.isRunning then .error .planRunning else .ok ()) ∧
            ∀ (h : House) s, h.supervisor.runner.isRunning = false → ∃ h' : House,
              Mission.startPlan h s text yaw = Mission.lookAtPlan h' s ∧
                h'.supervisor.runner.isRunning = true := by
  refine ⟨⟨_, Route.means_lookup text⟩, ?_⟩
  intro route means
  obtain rfl := means.same (Route.means_lookup text)
  cases made : Route.read (Route.lookup text) with
  | error why =>
    have refused := Route.build_refused made
    refine ⟨fun heading _ => .inl ⟨why, refused heading⟩,
      fun heading finite => Route.build_accepts_iff finite, ?_, ?_⟩
    · intro heading other _ _ fault
      rw [refused heading, refused other]
    · intro r mode plan passed
      obtain ⟨first, built⟩ := Cli.Operate.checkPlan_builds mode plan passed
      cases (refused 0).symm.trans built
  | ok steps =>
    have ready : ∀ heading, isFinite heading = true → ∃ plan,
        (Route.build text heading).1 = .ok plan ∧ Route.Ready (Route.lookup text) plan :=
      fun heading finite => Route.build_ready made finite
    refine ⟨fun heading finite => .inr (ready heading finite),
      fun heading finite => Route.build_accepts_iff finite, ?_, ?_⟩
    · intro heading other one two fault
      obtain ⟨plan, built, _⟩ := ready heading one
      obtain ⟨plan', built', _⟩ := ready other two
      rw [built, built']
      simp
    · intro r _ _ _ yaw finite
      obtain ⟨plan, built, good⟩ := ready yaw finite
      exact ⟨plan, built, good, fun s => Supervisor.startPlan_ready good.passes finite,
        fun h s rest => Mission.startPlan_ready built good finite rest s⟩

theorem named_square_is_ready :
    let r : Cli.Operate.Request := ⟨some "sim", some "plan", some " Square ", none, .untilStopped,
      true, false, some .info, some ".env"⟩
    let h : House := .ofBench ⟨.standard 0 [], .ofSimulator .standard .none⟩
    (Cli.Operate.checkPlan r).2 = .ok () ∧ isFinite 3.0 = true ∧
      ∃ plan, (Route.build " Square " 3.0).1 = .ok plan ∧ plan.length = 8 ∧
        ∃ h' : House, Mission.startPlan h (.ofMission "sim" (.plan " Square ")) " Square " 3.0 =
          Mission.lookAtPlan h' (.ofMission "sim" (.plan " Square ")) := by
  intro r h
  have means : Route.Means " Square " "F1.0,L90,F1.0,L90,F1.0,L90,F1.0,L90".toList := by
    decide +kernel
  have finite : isFinite 3.0 = true := by decide +kernel
  have passed : (Cli.Operate.checkPlan r).2 = .ok () := by
    have good : (Cli.Operate.checkPlan r).2.isOk = true := by decide +kernel
    cases checked : (Cli.Operate.checkPlan r).2 with
    | error why => rw [checked] at good; cases good
    | ok _ => rfl
  obtain ⟨_, _, _, later⟩ := (accepted_route_is_ready_from_any_heading " Square ").2 _ means
  obtain ⟨plan, built, good, _, goes_on⟩ := later r rfl rfl passed 3.0 finite
  obtain ⟨h', same, _⟩ := goes_on h (.ofMission "sim" (.plan " Square ")) rfl
  have eight : (Route.filled "F1.0,L90,F1.0,L90,F1.0,L90,F1.0,L90".toList).length = 8 := by
    decide +kernel
  exact ⟨passed, finite, plan, built, good.each.length_eq.symm.trans eight, h', same⟩

end Quadruped
