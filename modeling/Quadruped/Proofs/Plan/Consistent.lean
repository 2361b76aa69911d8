import Quadruped.Proofs.Angle
import Quadruped.Proofs.Plan.Flight
import Quadruped.Proofs.Plan.Rest

/-!
How the fields of a plan runner agree with each other: its phase with its plan, a segment under way
with the turn or the heading that it needs, its progress with the plan that was started. Ticks that
fail leave them in agreement too.
-/
namespace Quadruped

namespace Runner

variable {R : Type} [Scalar R]

/-- The phase is the one that the plan calls for; a runner that does not run has no plan left. -/
structure Phased (r : Runner R) : Prop where
  turning : r.phase = .turning ↔ ∃ h rest, r.plan = .turn h :: rest
  travelling : r.phase = .travelling ↔ ∃ d rest, r.plan = .travel d :: rest
  emptied : r.isRunning = false → r.plan = []

/-- The fields of a runner agree, and its progress is one through the plan that was laid down. -/
structure Consistent (laid : List (Segment R)) (r : Runner R) : Prop extends r.Phased where
  owed : r.stopPending = true → r.phase = .cancelled
  pausing : r.pauseUntil.isSome = true → r.isRunning = true ∧ r.active = false
  underWay : r.active = true → r.isRunning = true
  faces : r.active = true → ∀ h rest, r.plan = .turn h :: rest →
    r.turn.turning = true ∧ Angle.normalize h = some r.turn.target
  holds : r.active = true → ∀ d rest, r.plan = .travel d :: rest → r.heading.isSome = true
  counted : r.isRunning = true ∨ r.succeeded = true → r.completed + r.remaining = laid.length
  left : r.plan <:+ laid

section
variable {laid : List (Segment R)} {r s : Runner R} {t : Instants R} {pose : Pose R}
  {given : Given R}

omit [Scalar R] in
theorem phased_of_plan (phase : r.phase = phaseOf r.plan) : r.Phased := by
  cases plan : r.plan with
  | nil =>
    rw [plan, phaseOf] at phase
    exact ⟨by simp [phase, plan], by simp [phase, plan], fun _ => plan⟩
  | cons segment rest =>
    cases segment <;>
      · rw [plan, phaseOf] at phase
        exact ⟨by simp [phase, plan], by simp [phase, plan], by simp [isRunning, phase]⟩

omit [Scalar R] in
theorem phased_without_plan (plan : r.plan = []) (rest : r.isRunning = false) : r.Phased := by
  have not_turning : r.phase ≠ .turning := by rintro phase; simp [isRunning, phase] at rest
  have not_travelling : r.phase ≠ .travelling := by rintro phase; simp [isRunning, phase] at rest
  exact ⟨by simp [not_turning, plan], by simp [not_travelling, plan], fun _ => plan⟩

theorem consistent_fresh (phase : r.phase = phaseOf r.plan) (fresh : r.active = false)
    (unowed : r.stopPending = false) (pausing : r.pauseUntil.isSome = true → r.plan ≠ [])
    (counted : r.completed + r.plan.length = laid.length) (left : r.plan <:+ laid) :
    r.Consistent laid := by
  have phased := phased_of_plan phase
  refine ⟨phased, ?_, ?_, ?_, ?_, ?_, fun _ => counted, left⟩
  · simp [unowed]
  · intro pauses
    refine ⟨?_, fresh⟩
    cases running : r.isRunning with
    | true => rfl
    | false => exact absurd (phased.emptied running) (pausing pauses)
  all_goals
    intro active
    cases fresh.symm.trans active

theorem create_consistent {gains : Gains R} {source : String} (made : create gains source = .ok r) :
    r.Consistent [] := by
  unfold create at made
  split at made
  · cases made
  · split at made
    · cases made
    · cases made
      exact ⟨phased_without_plan rfl rfl, nofun, nofun, nofun, nofun, nofun,
        by simp [isRunning, succeeded], List.nil_suffix⟩

theorem begun_consistent {items : List (PlanItem R)} {heading : Option R}
    {plan : List (Segment R)} (passed : Plan.check items = .ok plan)
    (started : (r.start items heading).result = .ok ()) :
    (r.start items heading).state.Consistent plan := by
  obtain ⟨checked, held, passed', begun⟩ := start_begins started
  cases passed.symm.trans passed'
  rw [begun]
  exact consistent_fresh rfl rfl rfl (by simp [reset]) (Nat.zero_add _) (List.suffix_refl _)

theorem refused_consistent {items : List (PlanItem R)} {heading : Option R} {why : Fault R}
    (headed : ∀ h, heading = some h → Angle.normalize h ≠ none) (before : r.Consistent laid)
    (refused : (r.start items heading).result = .error why) :
    (r.start items heading).state.Consistent laid := by
  have attempt := r.start_attempt items heading
  rw [refused] at attempt
  generalize (r.start items heading).state = s at attempt ⊢
  cases attempt with
  | rejected | occupied => exact before
  | lost plan passed rest h faces nowhere => exact absurd nowhere (headed h faces)

theorem cancel_consistent (before : r.Consistent laid) : r.cancel.1.Consistent laid := by
  unfold cancel
  split
  · exact ⟨phased_without_plan rfl rfl, fun _ => rfl, nofun, nofun, nofun, nofun,
      by simp [isRunning, succeeded], List.nil_suffix⟩
  · exact before

theorem unpaused_consistent (before : r.Consistent laid) :
    Consistent laid { r with pauseUntil := none } :=
  { before with pausing := by simp }

theorem advance_consistent {segment : Segment R} {rest : List (Segment R)}
    (plan : r.plan = segment :: rest) (unowed : r.stopPending = false) (ready : r.pauseUntil = none)
    (counted : r.completed + r.remaining = laid.length) (left : r.plan <:+ laid) (now : R) :
    (r.advance now).1.Consistent laid := by
  obtain ⟨pauseUntil, eq, pauses⟩ := r.advance_only now
  rw [plan, ready, List.tail_cons] at pauses
  rw [plan, List.tail_cons] at eq
  rw [eq]
  refine consistent_fresh rfl rfl unowed ?_ ?_ ?_
  · intro paused
    rcases pauses with ⟨rfl, _⟩ | ⟨_, more, _⟩
    · cases paused
    · exact more
  · rw [remaining, plan, List.length_cons] at counted
    change r.completed + 1 + rest.length = laid.length
    omega
  · rw [plan] at left
    exact (List.suffix_cons segment rest).trans left

theorem running_unowed (before : r.Consistent laid) (running : r.isRunning = true) :
    r.stopPending = false := by
  cases owed : r.stopPending with
  | false => rfl
  | true =>
    rw [isRunning, before.owed owed] at running
    cases running

theorem onTurn_consistent {h : R} {rest : List (Segment R)} (on : OnTurn r h s)
    (before : r.Consistent laid) (plan : r.plan = .turn h :: rest) (ready : r.pauseUntil = none) :
    s.Consistent laid ∧ s.plan = .turn h :: rest ∧ s.turn.turning = true ∧ s.pauseUntil = none ∧
      s.isRunning = true := by
  have turning : r.phase = .turning := before.turning.mpr ⟨h, rest, plan⟩
  have running : r.isRunning = true := by simp [isRunning, turning]
  cases on with
  | goesOn active => exact ⟨before, plan, (before.faces active h rest plan).1, ready, running⟩
  | begins w fresh normal =>
    refine ⟨{ before with pausing := ?_, underWay := fun _ => running, faces := ?_, holds := ?_ },
      plan, rfl, ready, running⟩
    · intro pauses
      rw [show (r.facing w).pauseUntil = none from ready] at pauses
      cases pauses
    · intro _ h' rest' plan'
      cases plan.symm.trans plan'
      exact ⟨rfl, normal⟩
    · intro _ d rest' plan'
      cases plan.symm.trans plan'

theorem onTravel_consistent {d : R} {rest : List (Segment R)} (on : OnTravel r t pose s)
    (before : r.Consistent laid) (plan : r.plan = .travel d :: rest) (ready : r.pauseUntil = none) :
    s.Consistent laid ∧ s.plan = .travel d :: rest ∧ s.pauseUntil = none ∧ s.isRunning = true := by
  have travelling : r.phase = .travelling := before.travelling.mpr ⟨d, rest, plan⟩
  have running : r.isRunning = true := by simp [isRunning, travelling]
  cases on with
  | goesOn active => exact ⟨before, plan, ready, running⟩
  | begins w fresh held =>
    refine ⟨{ before with pausing := ?_, underWay := fun _ => running, faces := ?_, holds := ?_ },
      plan, ready, running⟩
    · intro pauses
      rw [show (r.departed t pose w).pauseUntil = none from ready] at pauses
      cases pauses
    · intro _ h rest' plan'
      cases plan.symm.trans plan'
    · intros
      rfl

theorem driven_consistent (driven : Driven r t pose s given) (before : r.Consistent laid)
    (ready : r.pauseUntil = none) : s.Consistent laid ∧ given ≠ .ok none := by
  cases driven with
  | grounded | misdirected => exact ⟨before, by simp⟩
  | passes h rest s plan on still =>
    obtain ⟨_, _, turning, _, _⟩ := onTurn_consistent on before plan ready
    cases still.symm.trans turning
  | turnFails h rest s plan on | turns h rest s plan on =>
    exact ⟨(onTurn_consistent on before plan ready).1, by simp⟩
  | arrives h rest s plan on turning e inside =>
    obtain ⟨begun, plan', _, ready', running⟩ := onTurn_consistent on before plan ready
    have unowed : s.stopPending = false := running_unowed begun running
    exact ⟨advance_consistent (r := s.faced) plan' unowed ready' (begun.counted (.inl running))
      begun.left t.finish, by simp⟩
  | strays d rest plan fresh free lost => exact ⟨{ before with }, by simp⟩
  | travelFails d rest s plan on | travels d rest s plan on =>
    exact ⟨(onTravel_consistent on before plan ready).1, by simp⟩
  | completes d rest s plan on far =>
    obtain ⟨begun, plan', ready', running⟩ := onTravel_consistent on before plan ready
    exact ⟨advance_consistent plan' (running_unowed begun running) ready'
      (begun.counted (.inl running)) begun.left t.finish, by simp⟩

theorem ticked_consistent {sample : Option (Pose R)} (ticked : Ticked r t sample s given)
    (before : r.Consistent laid) : s.Consistent laid := by
  cases ticked with
  | drains => exact { before with owed := by simp }
  | rests | pauses => exact before
  | waits => exact unpaused_consistent before
  | drives pose running ready s given driven =>
    exact (driven_consistent driven (unpaused_consistent before) rfl).1

theorem ticked_gives {sample : Option (Pose R)} {x : Option (Command R)}
    (ticked : Ticked r t sample s (.ok x)) (before : r.Consistent laid) :
    x.isSome = true ↔ r.isRunning = true ∨ r.stopPending = true := by
  cases ticked with
  | drains sample cancelled pending => simp [pending]
  | rests sample rest drained =>
    have unowed : r.stopPending = false := by
      cases owed : r.stopPending with
      | false => rfl
      | true => exact owed.symm.trans (drained (before.owed owed))
    simp [rest, unowed]
  | pauses sample running | waits running => simp [running]
  | drives pose running ready s given driven =>
    cases x with
    | some c => simp [running]
    | none => exact absurd rfl (driven_consistent driven (unpaused_consistent before) rfl).2

theorem consistent_split (before : r.Consistent laid) (running : r.isRunning = true) :
    laid = laid.take r.completed ++ r.plan ∧ r.completed ≤ laid.length := by
  obtain ⟨done, rfl⟩ := before.left
  have counted := before.counted (.inl running)
  rw [remaining, List.length_append] at counted
  have length : r.completed = done.length := by omega
  rw [length, List.take_left, List.length_append]
  exact ⟨rfl, by omega⟩

theorem consistent_next {segment : Segment R} {rest : List (Segment R)} (before : r.Consistent laid)
    (plan : r.plan = segment :: rest) : laid[r.completed]? = some segment := by
  have running : r.isRunning = true := by
    cases running : r.isRunning with
    | true => rfl
    | false => cases plan.symm.trans (before.emptied running)
  obtain ⟨whole, within⟩ := consistent_split before running
  rw [whole, List.getElem?_append_right (by simp), List.length_take, Nat.min_eq_left within, plan,
    Nat.sub_self, List.getElem?_cons_zero]

end

end Runner

namespace Pilot

variable {R : Type} [Scalar R]

/-- The plan that was laid down last once an act is over: only a start that succeeds lays one. -/
def Act.lays (p : Pilot R) (laid : List (Segment R)) : Act R → List (Segment R)
  | .start items heading =>
    match (p.start items heading).result, Plan.check items with
    | .ok _, .ok plan => plan
    | _, _ => laid
  | _ => laid

def lays (p : Pilot R) (laid : List (Segment R)) : List (Act R) → List (Segment R)
  | [] => laid
  | a :: rest => (p.act a).1.lays (a.lays p laid) rest

/-- A heading that is given to a plan has a meaning. -/
def Act.Headed : Act R → Prop
  | .start _ heading => ∀ h, heading = some h → Angle.normalize h ≠ none
  | _ => True

theorem act_consistent {p : Pilot R} {laid : List (Segment R)} {a : Act R} (headed : a.Headed)
    (before : p.runner.Consistent laid) : (p.act a).1.runner.Consistent (a.lays p laid) := by
  cases a with
  | hear pose => exact before
  | start items heading =>
    change (p.runner.start items heading).state.Consistent _
    cases result : (p.runner.start items heading).result with
    | error why =>
      have same : (Act.start items heading).lays p laid = laid := by
        simp [Act.lays, Pilot.start, result]
      rw [same]
      exact Runner.refused_consistent headed before result
    | ok u =>
      obtain ⟨plan, _, passed, _⟩ := Runner.start_begins result
      have laid_down : (Act.start items heading).lays p laid = plan := by
        simp [Act.lays, Pilot.start, result, passed]
      rw [laid_down]
      exact Runner.begun_consistent passed result
  | cancel => exact Runner.cancel_consistent before
  | tick t =>
    exact Runner.ticked_consistent (Runner.tickAt_ticked p.runner t p.sampler.slot.value) before

theorem fly_consistent {acts : List (Act R)} {p : Pilot R} {laid : List (Segment R)}
    (headed : ∀ a ∈ acts, a.Headed) (before : p.runner.Consistent laid) :
    (p.fly acts).1.runner.Consistent (p.lays laid acts) := by
  induction acts generalizing p laid with
  | nil => exact before
  | cons a rest ih =>
    obtain ⟨first, others⟩ := List.forall_mem_cons.mp headed
    exact ih others (act_consistent first before)

theorem attended_consistent {acts : List (Act R)} {p : Pilot R} {laid : List (Segment R)}
    (attended : ∀ a ∈ acts, a.attends = true) (before : p.runner.Consistent laid) :
    (p.fly acts).1.runner.Consistent laid := by
  induction acts generalizing p with
  | nil => exact before
  | cons a rest ih =>
    obtain ⟨attends, others⟩ := List.forall_mem_cons.mp attended
    apply ih others
    cases a with
    | start | cancel => cases attends
    | hear pose => exact act_consistent (a := .hear pose) trivial before
    | tick t => exact act_consistent (a := .tick t) trivial before

/-- In every flight, with failing ticks and cancels in any order, the fields of the runner agree:
the phase with the plan, a pause with a segment that has not begun, a segment under way with the
turn or the heading that it needs, and the progress with the plan that was started last. A tick that
does not fail gives a command just where a plan runs or a stop is owed. -/
theorem every_flight_keeps_fields_consistent {gains : Gains Float} {source : String}
    {runner : Runner Float} (made : Runner.create gains source = .ok runner)
    (acts : List (Act Float))
    (headed : ∀ items h, .start items (some h) ∈ acts → ∀ negative, h ≠ Number.infinite negative) :
    let p := ((ofRunner runner).fly acts).1
    p.runner.Consistent ((ofRunner runner).lays [] acts) ∧
      ∀ t x, (p.tickAt t).result = .ok x →
        (x.isSome = true ↔ p.runner.isRunning = true ∨ p.runner.stopPending = true) := by
  intro p
  have meant : ∀ a ∈ acts, a.Headed := by
    intro a member
    cases a with
    | start items heading =>
      rintro h rfl nowhere
      obtain ⟨negative, same⟩ := Angle.normalize_fails.mp nowhere
      exact headed items h member negative same
    | hear | cancel | tick => trivial
  have reached : p.runner.Consistent ((ofRunner runner).lays [] acts) :=
    fly_consistent meant (Runner.create_consistent made)
  refine ⟨reached, ?_⟩
  intro t x given
  have ticked := Runner.tickAt_ticked p.runner t p.sampler.slot.value
  have result : (p.runner.tickAt t p.sampler.slot.value).result = .ok x := given
  rw [result] at ticked
  exact Runner.ticked_gives ticked reached

/-- The first tick of the turn and that of the travel fail on a pose without a heading. -/
theorem failing_ticks_keep_fields_consistent :
    let lost : Pose Float := ⟨0, 0, 0, Number.infinite false, 0⟩
    let acts : List (Act Float) :=
      [.start [.segment (.turn 2), .segment (.travel 1)] (some 3), .hear lost, .tick ⟨0, 0, 0⟩,
        .hear ⟨0, 0, 0, 2, 0⟩, .tick ⟨1, 1, 1⟩, .hear lost, .tick ⟨2, 2, 2⟩]
    let flown := (ofRunner .standard).fly acts
    Runner.create .standard "elapsed" = .ok .standard ∧
      flown.2 = [.error .domain, .ok (some .stop), .error .domain] ∧
      flown.1.runner.Consistent [.turn 2, .travel 1] ∧
      flown.1.runner.active = true ∧ flown.1.runner.heading = some 2 := by
  intro lost acts flown
  have made : Runner.create .standard "elapsed" = .ok .standard := by rfl
  have headed : ∀ items h, .start items (some h) ∈ acts →
      ∀ negative, h ≠ Number.infinite negative := by
    intro items h member negative same
    obtain ⟨_, three⟩ : items = _ ∧ h = 3 := by simpa [acts] using member
    subst same
    cases negative <;> exact absurd three (by decide +kernel)
  have laid : (ofRunner .standard).lays [] acts = [.turn 2, .travel 1] := by decide +kernel
  obtain ⟨reached, _⟩ := every_flight_keeps_fields_consistent made acts headed
  rw [laid] at reached
  exact ⟨made, by decide +kernel, reached, by decide +kernel, by decide +kernel⟩

end Pilot
end Quadruped
