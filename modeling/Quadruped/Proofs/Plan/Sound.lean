import Quadruped.Proofs.Angle
import Quadruped.Proofs.Plan.Check
import Quadruped.Proofs.Plan.Flight

/-!
Plans that cannot fail. With finite settings, and on finite poses and headings, every angle that a
runner keeps is small, so that no error overflows, and every velocity that it gives is finite. The
clock may show anything at all.
-/
namespace Quadruped

open Number

def Velocity.Finite (v : Velocity Float) : Prop :=
  isFinite v.forward = true ∧ isFinite v.lateral = true ∧ isFinite v.angular = true

def Command.Finite : Command Float → Prop
  | .velocity v => v.Finite
  | .posture _ => True

theorem Velocity.checked_finite {v : Velocity Float} (finite : v.Finite) : v.checked = .ok v := by
  obtain ⟨forward, lateral, angular⟩ := finite
  simp only [checked, firstBad?, Scalar.finite, List.find?, forward, lateral, angular, Bool.not_true]

theorem isFinite_zero : isFinite 0 = true := by decide +kernel

theorem small_zero : Small 0 := show Fits (-40) (decoded 0.0) by rw [decoded_zero]; trivial

structure Gains.Finite (g : Gains Float) : Prop where
  turnSpeed : isFinite g.turnSpeed = true
  travelSpeed : isFinite g.travelSpeed = true
  headingLimit : isFinite g.headingLimit = true

namespace Runner

/-- A runner that cannot fail, whatever finite poses it gets. -/
structure Sound (g : Gains Float) (r : Runner Float) : Prop where
  tuned : r.Tuned g
  filled : r.isRunning = true → r.plan ≠ []
  turns : ∀ h, .turn h ∈ r.plan → isFinite h = true
  target : Small r.turn.target
  heading : ∀ h, r.heading = some h → Small h

def GivesFinite (given : Given Float) : Prop :=
  ∃ x, given = .ok x ∧ ∀ c, x = some c → c.Finite

section
variable {g : Gains Float} {r s : Runner Float} {t : Instants Float} {pose : Pose Float}
  {given : Given Float}

theorem gives_velocity {v : Velocity Float} (finite : v.Finite) :
    GivesFinite (.ok (some (.velocity v))) :=
  ⟨_, rfl, fun _ same => Option.some.inj same ▸ finite⟩

theorem gives_stop : GivesFinite (.ok (some .stop)) :=
  ⟨_, rfl, fun _ same => Option.some.inj same ▸ trivial⟩

theorem gives_still : GivesFinite (.ok (some .still)) :=
  gives_velocity ⟨isFinite_zero, isFinite_zero, isFinite_zero⟩

theorem gives_nothing : GivesFinite (.ok none) := ⟨none, rfl, by simp⟩

theorem create_sound {source : String} (made : create g source = .ok r) : r.Sound g := by
  have tuned := create_tuned made
  unfold create at made
  split at made
  · cases made
  · split at made
    · cases made
    · cases made
      exact ⟨tuned, by simp [isRunning], by simp, small_zero, by simp⟩

theorem start_sound (sound : r.Sound g) (items : List (PlanItem Float)) {heading : Option Float}
    (finite : ∀ h, heading = some h → isFinite h = true) :
    (r.start items heading).state.Sound g := by
  have tuned := start_tuned sound.tuned items heading
  have attempt := r.start_attempt items heading
  generalize (r.start items heading).state = s, (r.start items heading).result = result
    at attempt tuned ⊢
  cases attempt with
  | rejected | occupied => exact sound
  | lost plan passed rest h faces nowhere =>
    obtain ⟨w, normal, _⟩ := Angle.normalize_small (finite h faces)
    cases nowhere.symm.trans normal
  | begins plan passed rest held faces =>
    refine ⟨tuned, fun _ => Plan.checked_filled passed, fun h => Plan.check_headings passed,
      sound.target, ?_⟩
    rintro w rfl
    rcases faces with ⟨_, impossible⟩ | ⟨h, h', some_h, normal, same⟩
    · cases impossible
    · cases same
      obtain ⟨w', found, small⟩ := Angle.normalize_small (finite h some_h)
      cases normal.symm.trans found
      exact small

theorem cancel_sound (sound : r.Sound g) : r.cancel.1.Sound g := by
  unfold cancel
  split
  · exact ⟨⟨sound.tuned.settings, sound.tuned.speed⟩, by simp [isRunning], by simp, sound.target,
      sound.heading⟩
  · exact sound

theorem flagged_sound (sound : r.Sound g) (stopPending : Bool) (pauseUntil : Option Float) :
    Sound g { r with stopPending, pauseUntil } :=
  ⟨⟨sound.tuned.settings, sound.tuned.speed⟩, sound.filled, sound.turns, sound.target, sound.heading⟩

theorem held_sound (sound : r.Sound g) (turning : Bool) :
    Sound g { r with turn := { r.turn with turning }, heading := some r.turn.target } :=
  ⟨⟨sound.tuned.settings, sound.tuned.speed⟩, sound.filled, sound.turns, sound.target,
    fun _ same => Option.some.inj same ▸ sound.target⟩

theorem advance_sound (sound : r.Sound g) (now : Float) : (r.advance now).1.Sound g := by
  have tuned := advance_tuned sound.tuned now
  obtain ⟨pauseUntil, eq, _⟩ := r.advance_only now
  rw [eq] at tuned ⊢
  refine ⟨tuned, ?_, fun h member => sound.turns h (List.mem_of_mem_tail member), sound.target,
    sound.heading⟩
  intro running ended
  change r.plan.tail = [] at ended
  simp [isRunning, phaseOf, ended] at running

theorem onTurn_sound {h : Float} (on : OnTurn r h s) (sound : r.Sound g)
    (finite : isFinite h = true) : s.Sound g := by
  have tuned := onTurn_tuned on sound.tuned
  cases on with
  | goesOn active => exact sound
  | begins w fresh normal =>
    obtain ⟨w', found, small⟩ := Angle.normalize_small finite
    cases normal.symm.trans found
    exact ⟨tuned, sound.filled, sound.turns, small, sound.heading⟩

theorem onTravel_sound (on : OnTravel r t pose s) (sound : r.Sound g)
    (finite : isFinite pose.yaw = true) : s.Sound g := by
  have tuned := onTravel_tuned on sound.tuned
  cases on with
  | goesOn active => exact sound
  | begins w fresh held =>
    refine ⟨tuned, sound.filled, sound.turns, sound.target, ?_⟩
    rintro v same
    cases same
    rcases held with kept | ⟨_, normal⟩
    · exact sound.heading w kept
    · obtain ⟨w', found, small⟩ := Angle.normalize_small finite
      cases normal.symm.trans found
      exact small

theorem bias_finite (sound : r.Sound g) (steers : g.Finite) (finite : isFinite pose.yaw = true) :
    ∃ c, r.bias pose = some c ∧ isFinite c = true := by
  have held : Small (r.heading.getD 0) := by
    cases heading : r.heading with
    | none => exact small_zero
    | some h => exact sound.heading h heading
  unfold bias
  rw [sound.tuned.settings]
  exact Angle.correction_finite g.headingGain finite held steers.headingLimit

theorem turning_finite (sound : r.Sound g) (steers : g.Finite) (e : Float) :
    Velocity.Finite ⟨0, 0, r.turn.rate e⟩ := by
  refine ⟨isFinite_zero, isFinite_zero, ?_⟩
  change isFinite (r.turn.rate e) = true
  unfold PointTurn.rate
  rw [sound.tuned.speed]
  split
  · exact steers.turnSpeed
  · exact (within_of_isFinite steers.turnSpeed).neg.isFinite

theorem travelling_finite (sound : r.Sound g) (steers : g.Finite) {c : Float}
    (finite : isFinite c = true) : Velocity.Finite ⟨r.gains.travelSpeed, 0, c⟩ := by
  refine ⟨?_, isFinite_zero, finite⟩
  rw [sound.tuned.settings]
  exact steers.travelSpeed

theorem driven_sound (driven : Driven r t pose s given) (running : r.isRunning = true)
    (sound : r.Sound g) (steers : g.Finite) (finite : isFinite pose.yaw = true) :
    s.Sound g ∧ GivesFinite given := by
  have turnable {h : Float} {rest : List (Segment Float)} (plan : r.plan = .turn h :: rest) :
      isFinite h = true := sound.turns h (by rw [plan]; exact List.mem_cons_self)
  -- each way to fail needs an angle or a velocity that is not finite, or no plan at all
  cases driven with
  | grounded ended => exact absurd ended (sound.filled running)
  | misdirected h rest plan fresh lost =>
    obtain ⟨w, found, _⟩ := Angle.normalize_small (turnable plan)
    cases lost.symm.trans found
  | passes h rest s plan on still =>
    have begun := onTurn_sound on sound (turnable plan)
    exact ⟨advance_sound (held_sound begun s.turn.turning) t.finish, gives_nothing⟩
  | turnFails h rest s plan on why failed =>
    have begun := onTurn_sound on sound (turnable plan)
    rcases failed with lost | ⟨e, bad⟩
    · obtain ⟨e, found, _⟩ := Angle.error_small finite begun.target
      cases lost.symm.trans found
    · cases bad.symm.trans (Velocity.checked_finite (turning_finite begun steers e))
  | turns h rest s plan on turning e outside =>
    have begun := onTurn_sound on sound (turnable plan)
    exact ⟨begun, gives_velocity (turning_finite begun steers e)⟩
  | arrives h rest s plan on turning e inside =>
    have begun := onTurn_sound on sound (turnable plan)
    exact ⟨advance_sound (held_sound begun false) t.finish, gives_stop⟩
  | strays d rest plan fresh free lost =>
    obtain ⟨w, found, _⟩ := Angle.normalize_small finite
    cases lost.symm.trans found
  | travelFails d rest s plan on why failed =>
    have begun := onTravel_sound on sound finite
    obtain ⟨c, found, held⟩ := bias_finite begun steers finite
    rcases failed with lost | ⟨c', biased, bad⟩
    · cases lost.symm.trans found
    · cases biased.symm.trans found
      cases bad.symm.trans (Velocity.checked_finite (travelling_finite begun steers held))
  | travels d rest s plan on c biased short =>
    have begun := onTravel_sound on sound finite
    obtain ⟨c', found, held⟩ := bias_finite begun steers finite
    cases biased.symm.trans found
    exact ⟨begun, gives_velocity (travelling_finite begun steers held)⟩
  | completes d rest s plan on far =>
    exact ⟨advance_sound (onTravel_sound on sound finite) t.finish, gives_stop⟩

theorem ticked_sound {sample : Option (Pose Float)} (ticked : Ticked r t sample s given)
    (sound : r.Sound g) (steers : g.Finite)
    (finite : ∀ pose, sample = some pose → isFinite pose.yaw = true) :
    s.Sound g ∧ GivesFinite given := by
  have ready := flagged_sound sound r.stopPending none
  cases ticked with
  | drains sample cancelled pending => exact ⟨flagged_sound sound false r.pauseUntil, gives_stop⟩
  | rests => exact ⟨sound, gives_nothing⟩
  | pauses => exact ⟨sound, gives_still⟩
  | waits => exact ⟨ready, gives_still⟩
  | drives pose running unpaused s given driven =>
    exact driven_sound driven running ready steers (finite pose rfl)

end

end Runner

namespace Pilot

/-- An act that brings nothing into the plan that is not finite. -/
def Act.Finite : Act Float → Prop
  | .hear pose => isFinite pose.yaw = true
  | .start _ heading => ∀ h, heading = some h → isFinite h = true
  | _ => True

structure Sound (g : Gains Float) (p : Pilot Float) : Prop where
  runner : p.runner.Sound g
  sample : ∀ pose, p.sampler.slot.value = some pose → isFinite pose.yaw = true

variable {g : Gains Float} {p : Pilot Float}

theorem act_sound {a : Act Float} (finite : a.Finite) (sound : p.Sound g) (steers : g.Finite) :
    (p.act a).1.Sound g ∧ ∀ given ∈ (p.act a).2, Runner.GivesFinite given := by
  cases a with
  | hear pose =>
    refine ⟨⟨sound.runner, ?_⟩, by simp [act]⟩
    rintro sample same
    cases same
    exact finite
  | start items heading =>
    exact ⟨⟨Runner.start_sound sound.runner items finite, sound.sample⟩, by simp [act]⟩
  | cancel => exact ⟨⟨Runner.cancel_sound sound.runner, sound.sample⟩, by simp [act]⟩
  | tick t =>
    have ticked := Runner.tickAt_ticked p.runner t p.sampler.slot.value
    obtain ⟨left, gives⟩ := Runner.ticked_sound ticked sound.runner steers sound.sample
    refine ⟨⟨left, sound.sample⟩, ?_⟩
    intro given member
    rw [List.mem_singleton.mp member]
    exact gives

theorem fly_sound {acts : List (Act Float)} (finite : ∀ a ∈ acts, a.Finite) (sound : p.Sound g)
    (steers : g.Finite) :
    (p.fly acts).1.Sound g ∧ ∀ given ∈ (p.fly acts).2, Runner.GivesFinite given := by
  induction acts generalizing p with
  | nil => exact ⟨sound, by simp [fly]⟩
  | cons a rest ih =>
    obtain ⟨first, others⟩ := List.forall_mem_cons.mp finite
    obtain ⟨next, now⟩ := act_sound first sound steers
    obtain ⟨last, later⟩ := ih others next
    refine ⟨last, ?_⟩
    intro given member
    rcases List.mem_append.mp member with here | there
    · exact now given here
    · exact later given there

end Pilot
end Quadruped
