import Mathlib.Control.Monad.Basic
import Quadruped.Number.Double
import Quadruped.Proofs.Plan.Cancel

/-!
What a plan takes from the poses. Two pilots that are called alike on the same clock do alike, if at
each look they find the same heading, and the same place where distances are measured by it. What is
heard between two looks or during a pause has no part in it.
-/
namespace Quadruped

variable {R : Type}

inductive Pose.Alike (source : DistanceSource) : Option (Pose R) → Option (Pose R) → Prop where
  | unheard : Alike source none none
  | heard (one other : Pose R) (yaw : other.yaw = one.yaw)
      (place : source = .pose → other.x = one.x ∧ other.y = one.y) :
      Alike source (some one) (some other)

namespace Runner

/-- Two runners that differ at most in where their travel began, and not in that where distances are
measured from there. -/
inductive Twins (source : DistanceSource) (r : Runner R) : Runner R → Prop where
  | apart (origin : R × R) (set : r.source = source)
      (counts : source = .pose → origin = r.travelOrigin) :
      Twins source r { r with travelOrigin := origin }

variable {source : DistanceSource}

theorem Twins.refl (r : Runner R) : Twins r.source r r := .apart r.travelOrigin rfl fun _ => rfl

theorem Twins.own {r s : Runner R} (twins : Twins source r s) : Twins r.source r s := by
  cases twins with
  | apart origin set counts => exact .apart origin rfl (set ▸ counts)

structure Showing (R : Type) where
  phase : Phase
  completed : Nat
  remaining : Nat
  pausing : Bool
  finished : Bool
  heading : Option R
deriving DecidableEq, Repr

def showing (r : Runner R) : Showing R :=
  ⟨r.phase, r.completed, r.remaining, r.isPausing, r.isFinished, r.heading⟩

theorem showing_twins {r s : Runner R} (twins : Twins source r s) : s.showing = r.showing := by
  cases twins with
  | apart origin set counts => rfl

structure Matched {α : Type} (source : DistanceSource) (one other : Outcome R (Runner R) α) :
    Prop where
  result : other.result = one.result
  states : Twins source one.state other.state

theorem Matched.andThen {α β : Type} {one other : Outcome R (Runner R) α}
    {next following : Runner R → α → Outcome R (Runner R) β} (first : Matched source one other)
    (second : ∀ r s a, Twins source r s → Matched source (next r a) (following s a)) :
    Matched source (one.andThen next) (other.andThen following) := by
  cases gave : one.result with
  | error why =>
    obtain ⟨state, result⟩ := Outcome.andThen_after_error gave next
    obtain ⟨state', result'⟩ := Outcome.andThen_after_error (first.result.trans gave) following
    exact ⟨result'.trans result.symm, by rw [state, state']; exact first.states⟩
  | ok a =>
    obtain ⟨state, result⟩ := Outcome.andThen_after_ok gave next
    obtain ⟨state', result'⟩ := Outcome.andThen_after_ok (first.result.trans gave) following
    have rest := second _ _ a first.states
    exact ⟨by rw [result, result', rest.result], by rw [state, state']; exact rest.states⟩

section
variable [Scalar R] {r s : Runner R} {one other : Pose R}

theorem advance_twins (twins : Twins source r s) (now : R) :
    Twins source (r.advance now).1 (s.advance now).1 := by
  cases twins with
  | apart origin set counts =>
    unfold advance
    dsimp only
    split
    · exact .apart origin set counts
    · split
      · exact .apart origin set counts
      · exact .apart origin set counts

theorem start_matched (twins : Twins source r s) (items : List (PlanItem R)) (heading : Option R) :
    Matched source (r.start items heading) (s.start items heading) := by
  cases twins with
  | apart origin set counts =>
    unfold start
    split
    · exact ⟨rfl, .apart origin set counts⟩
    · change Matched source (if r.isRunning = true then _ else _) (if r.isRunning = true then _ else _)
      split
      · exact ⟨rfl, .apart origin set counts⟩
      · cases heading with
        | none => exact ⟨rfl, .apart origin set counts⟩
        | some h =>
          dsimp only
          split
          · exact ⟨rfl, .apart origin set counts⟩
          · exact ⟨rfl, .apart origin set counts⟩

omit [Scalar R] in
theorem cancel_twins (twins : Twins source r s) : Twins source r.cancel.1 s.cancel.1 := by
  cases twins with
  | apart origin set counts =>
    cases running : r.isRunning with
    | true =>
      have other : { r with travelOrigin := origin }.isRunning = true := running
      unfold cancel
      rw [if_pos running, if_pos other]
      exact .apart origin set counts
    | false =>
      have other : { r with travelOrigin := origin }.isRunning = false := running
      rw [cancel_at_rest running, cancel_at_rest other]
      exact .apart origin set counts

theorem beginTurn_matched (twins : Twins source r s) (h : R) :
    Matched source (r.beginTurn h) (s.beginTurn h) := by
  cases twins with
  | apart origin set counts =>
    unfold beginTurn
    dsimp only
    split
    · exact ⟨rfl, .apart origin set counts⟩
    · have turned : Matched source ((r.turn.begin h).within fun turn => { r with turn })
          ((r.turn.begin h).within fun turn => { r with travelOrigin := origin, turn }) :=
        ⟨rfl, .apart origin set counts⟩
      refine turned.andThen ?_
      rintro r _ _ ⟨origin, set, counts⟩
      exact ⟨rfl, .apart origin set counts⟩

theorem stepTurn_matched (twins : Twins source r s) (now yaw : R) :
    Matched source (r.stepTurn now yaw) (s.stepTurn now yaw) := by
  cases twins with
  | apart origin set counts =>
    have turned : Matched source ((r.turn.step yaw).within fun turn => { r with turn })
        ((r.turn.step yaw).within fun turn => { r with travelOrigin := origin, turn }) :=
      ⟨rfl, .apart origin set counts⟩
    refine turned.andThen ?_
    rintro r _ command ⟨origin, set, counts⟩
    dsimp only
    split
    · exact ⟨rfl, .apart origin set counts⟩
    · exact ⟨rfl, advance_twins (r := { r with heading := some r.turn.target })
        (.apart origin set counts) now⟩

theorem beginTravel_matched (twins : Twins source r s)
    (alike : Pose.Alike source (some one) (some other))
    (now distance : R) :
    Matched source (r.beginTravel now distance one) (s.beginTravel now distance other) := by
  cases twins with
  | apart origin set counts =>
    cases alike with
    | heard _ _ yaw place =>
      have departs : source = .pose → (other.x, other.y) = (one.x, one.y) := by
        intro measured
        obtain ⟨x, y⟩ := place measured
        rw [x, y]
      unfold beginTravel
      dsimp only
      rw [yaw]
      split
      · exact ⟨rfl, .apart origin set counts⟩
      · split
        · exact ⟨rfl, .apart (other.x, other.y) set departs⟩
        · split
          · exact ⟨rfl, .apart (other.x, other.y) set departs⟩
          · exact ⟨rfl, .apart (other.x, other.y) set departs⟩

theorem stepTravel_matched (twins : Twins source r s)
    (alike : Pose.Alike source (some one) (some other))
    (t : Instants R) (distance : R) :
    Matched source (r.stepTravel t distance one) (s.stepTravel t distance other) := by
  cases twins with
  | apart origin set counts =>
    cases alike with
    | heard _ _ yaw place =>
      have measured : { r with travelOrigin := origin }.measured other = r.measured one := by
        unfold Runner.measured
        dsimp only
        rw [set]
        cases source with
        | elapsed => rfl
        | pose =>
          obtain ⟨x, y⟩ := place rfl
          rw [counts rfl, x, y]
      have held : { r with travelOrigin := origin }.holdHeading t.travel other =
          r.holdHeading t.travel one := by
        unfold holdHeading
        rw [measured, yaw]
      unfold stepTravel
      rw [held]
      dsimp only
      split
      · exact ⟨rfl, .apart origin set counts⟩
      · split
        · exact ⟨rfl, advance_twins (.apart origin set counts) t.finish⟩
        · exact ⟨rfl, .apart origin set counts⟩

theorem drive_matched (twins : Twins source r s) (alike : Pose.Alike source (some one) (some other))
    (t : Instants R) : Matched source (r.drive t one) (s.drive t other) := by
  have plan : s.plan = r.plan := by cases twins with | apart => rfl
  have heading : other.yaw = one.yaw := by cases alike with | heard _ _ yaw place => exact yaw
  unfold drive
  rw [plan]
  split
  · exact ⟨rfl, twins⟩
  · refine (beginTurn_matched twins _).andThen ?_
    intro r s _ twins
    rw [heading]
    exact stepTurn_matched twins t.finish one.yaw
  · refine (beginTravel_matched twins alike t.travel _).andThen ?_
    intro r s _ twins
    exact stepTravel_matched twins alike t _

theorem tickAt_matched (twins : Twins source r s) {t : Instants R} {sample others : Option (Pose R)}
    (alike : r.looks t = true → Pose.Alike source sample others) :
    Matched source (r.tickAt t sample) (s.tickAt t others) := by
  cases twins with
  | apart origin set counts =>
    have running : { r with travelOrigin := origin }.isRunning = r.isRunning := rfl
    have paused : { r with travelOrigin := origin }.pausedAt t.pause = r.pausedAt t.pause := rfl
    unfold tickAt
    rw [running, paused]
    dsimp only
    split
    · split
      · exact ⟨rfl, .apart origin set counts⟩
      · exact ⟨rfl, .apart origin set counts⟩
    · cases runs : r.isRunning with
      | false => exact ⟨rfl, .apart origin set counts⟩
      | true =>
        cases pauses : r.pausedAt t.pause with
        | true => exact ⟨rfl, .apart origin set counts⟩
        | false =>
          have sees : r.looks t = true := by simp [looks, runs, pauses]
          cases alike sees with
          | unheard => exact ⟨rfl, .apart origin set counts⟩
          | heard one other yaw place =>
            exact drive_matched (r := { r with pauseUntil := none }) (.apart origin set counts)
              (.heard one other yaw place) t

end

end Runner

namespace Pilot

def Act.calls : Act R → Bool
  | .hear _ => false
  | _ => true

variable [Scalar R]

def gives (p : Pilot R) : Act R → Runner.Given R
  | .start items heading => (p.start items heading).result.map fun _ => none
  | .tick t => (p.tickAt t).result
  | _ => .ok none

/-- What each call of a flight gives and what the pilot then shows, oldest first. -/
def account (p : Pilot R) : List (Act R) → List (Runner.Given R × Runner.Showing R)
  | [] => []
  | a :: rest =>
    let later := (p.act a).1.account rest
    if a.calls then (p.gives a, (p.act a).1.runner.showing) :: later else later

/-- Two flights with the same calls, one after the other, and whatever poses between them. Where a
tick of theirs looks at the newest pose, they do not find different ones. -/
inductive InStep : Pilot R → Pilot R → List (Act R) → List (Act R) → Prop where
  | landed (p q : Pilot R) : InStep p q [] []
  | hearsOne {p q : Pilot R} {one other : List (Act R)} (pose : Pose R)
      (rest : InStep (p.hear pose).1 q one other) : InStep p q (.hear pose :: one) other
  | hearsOther {p q : Pilot R} {one other : List (Act R)} (pose : Pose R)
      (rest : InStep p (q.hear pose).1 one other) : InStep p q one (.hear pose :: other)
  | both {p q : Pilot R} {one other : List (Act R)} (a : Act R) (calls : a.calls = true)
      (alike : ∀ t, a = .tick t → p.runner.looks t = true →
        Pose.Alike p.runner.source p.sampler.slot.value q.sampler.slot.value)
      (rest : InStep (p.act a).1 (q.act a).1 one other) : InStep p q (a :: one) (a :: other)

variable {p q : Pilot R}

theorem call_twins (twins : Runner.Twins p.runner.source p.runner q.runner) (a : Act R)
    (alike : ∀ t, a = .tick t → p.runner.looks t = true →
      Pose.Alike p.runner.source p.sampler.slot.value q.sampler.slot.value) :
    Runner.Twins p.runner.source (p.act a).1.runner (q.act a).1.runner ∧ q.gives a = p.gives a := by
  cases a with
  | hear pose => exact ⟨twins, rfl⟩
  | start items heading =>
    have matched := Runner.start_matched twins items heading
    exact ⟨matched.states, congrArg (Except.map fun _ => none) matched.result⟩
  | cancel => exact ⟨Runner.cancel_twins twins, rfl⟩
  | tick t =>
    have matched := Runner.tickAt_matched twins (alike t rfl)
    exact ⟨matched.states, matched.result⟩

theorem inStep_account {one other : List (Act R)} (flights : InStep p q one other)
    (twins : Runner.Twins p.runner.source p.runner q.runner) : q.account other = p.account one := by
  induction flights with
  | landed => rfl
  | hearsOne pose rest ih => exact ih twins
  | hearsOther pose rest ih => exact ih twins
  | both a calls alike rest ih =>
    obtain ⟨after, gives⟩ := call_twins twins a alike
    unfold account
    rw [if_pos calls, if_pos calls, gives, Runner.showing_twins after, ih after.own]

/-- Two pilots with the same runner, called alike on the same clock, give the same commands and faults
and show the same after every call, where each look finds the same heading, and the same place if
distances are measured. Nothing else of the poses can be told from what they do: neither height nor
time, nor what was heard between two looks or during a pause, nor the place if distances are not
measured. -/
theorem flights_in_step_account_alike {p q : Pilot R} (same : q.runner = p.runner)
    {one other : List (Act R)} (flights : InStep p q one other) :
    q.account other = p.account one := by
  apply inStep_account flights
  rw [same]
  exact .refl p.runner

/-- One pilot stands elsewhere, heard a stray pose before its first tick, and hears nothing in the
pause, in which the other is told of a wild heading. -/
theorem stray_poses_leave_no_trace :
    let p : Pilot Float := ofRunner .standard
    let plan : List (PlanItem Float) := [.segment (.travel 0.01), .segment (.turn 1)]
    let one : List (Act Float) :=
      [.start plan none, .hear ⟨1, 2, 3, 0.5, 0⟩, .tick ⟨0, 0, 0⟩, .tick ⟨0.05, 0.05, 0.05⟩,
        .hear ⟨1, 2, 3, 9, 0⟩, .tick ⟨0.5, 0.5, 0.5⟩]
    let other : List (Act Float) :=
      [.start plan none, .hear ⟨7, 7, 7, 2, 1⟩, .hear ⟨5, 0, 0, 0.5, 9⟩, .tick ⟨0, 0, 0⟩,
        .tick ⟨0.05, 0.05, 0.05⟩, .tick ⟨0.5, 0.5, 0.5⟩]
    InStep p p one other ∧
      (p.account one).map (·.1) = [.ok none, .ok (some (.velocity ⟨0.5, 0, 0⟩)), .ok (some .stop),
        .ok (some .still)] ∧
      (p.fly one).1.runner.travelOrigin = (1, 2) ∧ (p.fly other).1.runner.travelOrigin = (5, 0) ∧
      p.account other = p.account one := by
  intro p plan one other
  have step : InStep p p one other := by
    refine .both _ rfl nofun (.hearsOne _ (.hearsOther _ (.hearsOther _ (.both _ rfl ?departs
      (.both _ rfl ?arrives (.hearsOne _ (.both _ rfl ?pauses (.landed _ _))))))))
    case departs | arrives =>
      intro _ _ _
      exact .heard _ _ rfl fun measured => absurd measured (by decide +kernel)
    case pauses =>
      intro t same looks
      cases same
      exact absurd looks (by decide +kernel)
  exact ⟨step, by decide +kernel, by decide +kernel, by decide +kernel,
    flights_in_step_account_alike rfl step⟩

end Pilot
end Quadruped
