import Quadruped.Plan.Pilot
import Quadruped.Proofs.Plan.Tick

/-!
A pilot in flight: poses arrive, plans are started and cancelled, and ticks are taken, in any order.
The clock is read anew each time that a tick looks at it, and its readings are arbitrary.
-/
namespace Quadruped.Pilot

inductive Act (R : Type) where
  | hear (pose : Pose R)
  | start (items : List (PlanItem R)) (heading : Option R)
  | cancel
  | tick (t : Instants R)

namespace Act

variable {R : Type}

def isTick : Act R → Bool
  | tick _ => true
  | _ => false

def starts : Act R → Bool
  | start .. => true
  | _ => false

def attends : Act R → Bool
  | hear _ | tick _ => true
  | _ => false

end Act

variable {R : Type} [Scalar R]

/-- What an act leaves, and what it gives: a tick has one result, every other act has none. -/
def act (p : Pilot R) : Act R → Pilot R × List (Runner.Given R)
  | .hear pose => ((p.hear pose).1, [])
  | .start items heading => ((p.start items heading).state, [])
  | .cancel => (p.cancel.1, [])
  | .tick t => ((p.tickAt t).state, [(p.tickAt t).result])

def fly (p : Pilot R) : List (Act R) → Pilot R × List (Runner.Given R)
  | [] => (p, [])
  | a :: rest =>
    let later := (p.act a).1.fly rest
    (later.1, (p.act a).2 ++ later.2)

@[simp] theorem fly_cons (p : Pilot R) (a : Act R) (rest : List (Act R)) :
    p.fly (a :: rest) =
      (((p.act a).1.fly rest).1, (p.act a).2 ++ ((p.act a).1.fly rest).2) := rfl

theorem fly_append (p : Pilot R) (one other : List (Act R)) :
    p.fly (one ++ other) =
      (((p.fly one).1.fly other).1, (p.fly one).2 ++ ((p.fly one).1.fly other).2) := by
  induction one generalizing p with
  | nil => rfl
  | cons a rest ih =>
    rw [List.cons_append, fly_cons, ih]
    simp [List.append_assoc]

def Calm (p : Pilot R) (acts : List (Act R)) : Prop :=
  ∃ results : List (Option (Command R)), (p.fly acts).2 = results.map .ok

theorem calm_append {p : Pilot R} {one other : List (Act R)} :
    p.Calm (one ++ other) ↔ p.Calm one ∧ (p.fly one).1.Calm other := by
  constructor
  · rintro ⟨results, given⟩
    rw [fly_append] at given
    obtain ⟨first, later, rfl, first_given, later_given⟩ := List.map_eq_append_iff.mp given.symm
    exact ⟨⟨first, first_given.symm⟩, later, later_given.symm⟩
  · rintro ⟨⟨first, first_given⟩, later, later_given⟩
    exact ⟨first ++ later, by rw [fly_append, first_given, later_given, List.map_append]⟩

theorem calm_cons {p : Pilot R} {a : Act R} {rest : List (Act R)} :
    p.Calm (a :: rest) ↔ p.Calm [a] ∧ (p.act a).1.Calm rest := by
  rw [← List.singleton_append]
  exact calm_append

theorem calm_tick {p : Pilot R} {t : Instants R} :
    p.Calm [.tick t] ↔ ∃ x, (p.tickAt t).result = .ok x := by
  constructor
  · rintro ⟨results, given⟩
    obtain ⟨x, _, rfl, first, _⟩ := List.map_eq_cons_iff.mp given.symm
    exact ⟨x, first.symm⟩
  · rintro ⟨x, given⟩
    exact ⟨[x], congrArg (fun result => [result]) given⟩

/-- The segment that a tick drives and the pose that it looks at; there are none at rest, in a pause
and before any pose. -/
def driving (p : Pilot R) (t : Instants R) : Option (Segment R × Pose R) :=
  if p.runner.looks t then
    p.runner.plan.head?.bind fun segment => p.sampler.slot.value.map fun pose => (segment, pose)
  else none

section
variable {p : Pilot R} {t : Instants R}

theorem driving_driven {segment : Segment R} {pose : Pose R}
    (drives : p.driving t = some (segment, pose)) :
    (∃ rest, p.runner.plan = segment :: rest) ∧ p.sampler.slot.value = some pose ∧
      Runner.Driven { p.runner with pauseUntil := none } t pose (p.act (.tick t)).1.runner
        (p.tickAt t).result := by
  unfold driving at drives
  split at drives
  · rename_i looks
    obtain ⟨first, head, heard⟩ := Option.bind_eq_some_iff.mp drives
    obtain ⟨newest, value, same⟩ := Option.map_eq_some_iff.mp heard
    cases same
    refine ⟨List.head?_eq_some_iff.mp head, value, ?_⟩
    have driven := Runner.drive_driven { p.runner with pauseUntil := none } t pose
    rw [← Runner.tickAt_looks looks pose, ← value] at driven
    exact driven
  · cases drives

theorem driving_none {x : Option (Command R)} (undriven : p.driving t = none)
    (given : (p.tickAt t).result = .ok x) :
    ∃ stopPending pauseUntil,
      (p.act (.tick t)).1.runner = { p.runner with stopPending, pauseUntil } := by
  have ticked := Runner.tickAt_ticked p.runner t p.sampler.slot.value
  rw [show (p.runner.tickAt t p.sampler.slot.value).result = .ok x from given] at ticked
  change ∃ _ _, (p.runner.tickAt t p.sampler.slot.value).state = _
  generalize value : p.sampler.slot.value = sample at ticked ⊢
  generalize (p.runner.tickAt t sample).state = s at ticked ⊢
  cases ticked with
  | drains => exact ⟨false, p.runner.pauseUntil, rfl⟩
  | rests | pauses => exact ⟨p.runner.stopPending, p.runner.pauseUntil, rfl⟩
  | waits => exact ⟨p.runner.stopPending, none, rfl⟩
  | drives pose running ready s given driven =>
    have unplanned : p.runner.plan = [] := by
      simpa [driving, Runner.looks, running, ready, value, ← Option.eq_none_iff_forall_ne_some]
        using undriven
    exact absurd unplanned (Runner.driven_planned (r := { p.runner with pauseUntil := none }) driven)

end

theorem fly_keeps {P : Pilot R → Prop} (act_keeps : ∀ p a, P p → P (p.act a).1)
    (acts : List (Act R)) {p : Pilot R} (first : P p) : P (p.fly acts).1 := by
  induction acts generalizing p with
  | nil => exact first
  | cons a rest ih => exact ih (act_keeps p a first)

theorem fly_untouched {p : Pilot R} {given : Runner.Given R} {acts : List (Act R)}
    (untouched : ∀ q : Pilot R, q.runner = p.runner → ∀ a ∈ acts,
      (q.act a).1.runner = p.runner ∧ (q.act a).2 = List.replicate ([a].countP Act.isTick) given) :
    (p.fly acts).1.runner = p.runner ∧
      (p.fly acts).2 = List.replicate (acts.countP Act.isTick) given := by
  induction acts generalizing p with
  | nil => exact ⟨rfl, rfl⟩
  | cons a rest ih =>
    obtain ⟨same, first⟩ := untouched p rfl a List.mem_cons_self
    obtain ⟨after, later⟩ := ih (p := (p.act a).1) fun q unmoved b member => by
      rw [same] at unmoved ⊢
      exact untouched q unmoved b (List.mem_cons_of_mem a member)
    refine ⟨after.trans same, ?_⟩
    rw [fly_cons, first, later, List.replicate_append_replicate, ← List.countP_append,
      List.singleton_append]

theorem act_source (p : Pilot R) (a : Act R) : (p.act a).1.runner.source = p.runner.source := by
  cases a with
  | hear pose => rfl
  | start items heading =>
    have attempt := p.runner.start_attempt items heading
    change (p.runner.start items heading).state.source = _
    generalize (p.runner.start items heading).state = s, (p.runner.start items heading).result = given
      at attempt ⊢
    cases attempt with
    | rejected | occupied | lost | begins => rfl
  | cancel =>
    change p.runner.cancel.1.source = _
    unfold Runner.cancel
    split
    · rfl
    · rfl
  | tick t =>
    exact Runner.ticked_source (Runner.tickAt_ticked p.runner t p.sampler.slot.value)

theorem fly_source (p : Pilot R) (acts : List (Act R)) :
    (p.fly acts).1.runner.source = p.runner.source :=
  fly_keeps (P := fun q => q.runner.source = p.runner.source)
    (fun q a same => (act_source q a).trans same) acts rfl

theorem act_stays_ready (p : Pilot R) (a : Act R) (ready : p.sampler.isReady = true) :
    (p.act a).1.sampler.isReady = true := by
  cases a with
  | hear pose => rfl
  | start | cancel | tick => exact ready

theorem act_tuned {gains : Gains R} (p : Pilot R) (a : Act R) (tuned : p.runner.Tuned gains) :
    (p.act a).1.runner.Tuned gains := by
  cases a with
  | hear pose => exact tuned
  | start items heading => exact Runner.start_tuned tuned items heading
  | cancel => exact Runner.cancel_tuned tuned
  | tick t =>
    exact Runner.ticked_tuned (Runner.tickAt_ticked p.runner t p.sampler.slot.value) tuned

end Quadruped.Pilot
