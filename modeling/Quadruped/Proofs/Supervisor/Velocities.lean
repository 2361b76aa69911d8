import Quadruped.Proofs.Angle
import Quadruped.Proofs.Plan.Tick
import Quadruped.Proofs.Supervisor.PlanMode

/-!
The velocities that the robot can be sent: those of the operator's directions, no motion, the turning
rate of the settings to either side, and their travel speed with a bounded correction. The clock and
the poses that a plan is steered by may be anything at all, numbers or not.
-/
namespace Quadruped

section

variable {R : Type} [Scalar R]

inductive Velocity.Allowed (speeds : Speeds R) (g : Gains R) : Velocity R → Prop where
  | direction (d : Direction) (v : Velocity R) (entry : speeds.command d = .velocity v) :
      Allowed speeds g v
  | still : Allowed speeds g .zero
  | left : Allowed speeds g ⟨0, 0, g.turnSpeed⟩
  | right : Allowed speeds g ⟨0, 0, -g.turnSpeed⟩
  | travel (c : R) (lower : Scalar.le (-g.headingLimit) c = true)
      (upper : Scalar.le c g.headingLimit = true) : Allowed speeds g ⟨g.travelSpeed, 0, c⟩

def Command.Allowed (speeds : Speeds R) (g : Gains R) : Command R → Prop
  | .velocity v => v.Allowed speeds g
  | .posture _ => True

end

variable {speeds : Speeds Float} {g : Gains Float}

namespace Runner

variable {r s : Runner Float} {t : Instants Float} {c : Command Float}

theorem driven_allowed {pose : Pose Float} (driven : Driven r t pose s (.ok (some c)))
    (tuned : Tuned g r) (bounded : 0.0 ≤ g.headingLimit) : c.Allowed speeds g := by
  cases driven with
  | turns h rest s plan on turning e outside =>
    have begun := onTurn_tuned on tuned
    change Velocity.Allowed speeds g ⟨0, 0, s.turn.rate e⟩
    unfold PointTurn.rate
    rw [begun.speed]
    split
    · exact .left
    · exact .right
  | arrives h rest s plan on turning e inside => trivial
  | travels d rest s plan on c biased short =>
    have begun := onTravel_tuned on tuned
    unfold bias at biased
    rw [begun.settings] at biased
    obtain ⟨above, below, _⟩ := Angle.correction_within bounded biased
    change Velocity.Allowed speeds g ⟨s.gains.travelSpeed, 0, c⟩
    rw [begun.settings]
    exact .travel c (decide_eq_true above) (decide_eq_true below)
  | completes d rest s plan on far => trivial

theorem ticked_allowed {sample : Option (Pose Float)} (ticked : Ticked r t sample s (.ok (some c)))
    (tuned : Tuned g r) (bounded : 0.0 ≤ g.headingLimit) : c.Allowed speeds g := by
  cases ticked with
  | drains => trivial
  | pauses | waits => exact .still
  | drives pose running ready s given driven =>
    exact driven_allowed driven ⟨tuned.settings, tuned.speed⟩ bounded

theorem tickAt_allowed (tuned : Tuned g r) (bounded : 0.0 ≤ g.headingLimit) (t : Instants Float)
    (sample : Option (Pose Float)) (given : (r.tickAt t sample).result = .ok (some c)) :
    c.Allowed speeds g := by
  have ticked := tickAt_ticked r t sample
  rw [given] at ticked
  exact ticked_allowed ticked tuned bounded

end Runner

theorem Dispatch.commandFor_allowed {plan : Option (Command Float)} {m : Mode} {c : Command Float}
    (planned : ∀ c, plan = some c → c.Allowed speeds g)
    (selected : commandFor speeds plan m = some c) : c.Allowed speeds g := by
  unfold commandFor at selected
  split at selected
  · cases selected
    trivial
  · cases plan with
    | none =>
      cases selected
      trivial
    | some c' =>
      cases selected
      exact planned _ rfl
  · obtain ⟨d, _, rfl⟩ := Option.map_eq_some_iff.mp selected
    cases entry : speeds.command d with
    | velocity v => exact .direction d v entry
    | posture p => trivial
  · obtain ⟨p, _, rfl⟩ := Option.map_eq_some_iff.mp selected
    trivial

theorem Dispatch.select_allowed {plan : Option (Command Float)}
    (planned : ∀ c, plan = some c → c.Allowed speeds g) (m : Mode) :
    (select speeds plan (.mode m)).1.Allowed speeds g := by
  cases selected : commandFor speeds plan m with
  | none => simp [select, selected, Command.stop, Command.Allowed]
  | some c => simpa [select, selected] using commandFor_allowed planned selected

namespace Supervisor

structure Tuned {R : Type} [Scalar R] (speeds : Speeds R) (g : Gains R) (s : Supervisor R) :
    Prop where
  table : s.dispatch.speeds = speeds
  runner : s.runner.Tuned g

section
variable {R : Type} [Scalar R] {speeds : Speeds R} {g : Gains R} {s : Supervisor R}

theorem tickPlan_tuned (tuned : s.Tuned speeds g) (now : Instants R) :
    (s.tickPlan now).state.Tuned speeds g := by
  have ticked : (s.runner.tickAt now s.sampler.slot.value).state.Tuned g :=
    Runner.ticked_tuned (Runner.tickAt_ticked s.runner _ _) tuned.runner
  unfold tickPlan
  split
  · exact ⟨tuned.table, ticked⟩
  · split
    · exact Outcome.andThen_keeps (Tuned speeds g) ⟨tuned.table, ticked⟩
        fun _ => ⟨tuned.table, ticked⟩
    · exact tuned

theorem choose_tuned (tuned : s.Tuned speeds g) (now : Instants R) :
    (s.choose now).state.Tuned speeds g := by
  have ticked := tickPlan_tuned tuned now
  unfold choose
  apply Outcome.andThen_keeps (Tuned speeds g) ticked
  intro plan
  split
  · exact ticked
  · have mapped : ((s.tickPlan now).state.dispatch.map s.currentMode plan).state.speeds = speeds := by
      unfold Dispatch.map
      dsimp only
      split
      · exact ticked.table
      · exact ticked.table
    exact Outcome.andThen_keeps (Tuned speeds g) ⟨mapped, ticked.runner⟩
      fun _ => ⟨mapped, ticked.runner⟩

theorem tuned_abiding (speeds : Speeds R) (g : Gains R) : Abiding (Tuned speeds g) where
  same _ _ _ dispatch runner _ tuned := ⟨dispatch ▸ tuned.table, runner ▸ tuned.runner⟩
  cancels _ tuned := ⟨tuned.table, Runner.cancel_tuned tuned.runner⟩

theorem tuned_lasting (speeds : Speeds R) (g : Gains R) : Lasting (Tuned speeds g) :=
  (tuned_abiding speeds g).lasting fun _ now tuned => choose_tuned tuned now

theorem obey_tuned (tuned : s.Tuned speeds g) (c : Call R) : (s.obey c).Tuned speeds g := by
  refine (tuned_abiding speeds g).obey tuned ?_ ?_
  · intro items heading _
    exact ⟨tuned.table, Runner.start_tuned tuned.runner items heading⟩
  · intro pose _
    exact ⟨tuned.table, tuned.runner⟩

end

variable {s : Supervisor Float}

theorem tickPlan_allowed (tuned : s.Tuned speeds g) (bounded : 0.0 ≤ g.headingLimit)
    {now : Instants Float}
    {c : Command Float} (ticked : (s.tickPlan now).result = .ok (some c)) : c.Allowed speeds g := by
  unfold tickPlan at ticked
  split at ticked
  · exact Runner.tickAt_allowed tuned.runner bounded _ _ ticked
  · split at ticked
    · obtain ⟨_, _, none_left, _⟩ := Outcome.andThen_succeeds ticked
      cases none_left
    · cases ticked

theorem choose_allowed (tuned : s.Tuned speeds g) (bounded : 0.0 ≤ g.headingLimit)
    {now : Instants Float}
    {choice : Choice Float} (chosen : (s.choose now).result = .ok choice) :
    choice.command.Allowed speeds g := by
  obtain ⟨plan, ticked, mapped, _⟩ := Outcome.andThen_succeeds chosen
  split at mapped
  · cases mapped
    trivial
  · obtain ⟨c, selected, last, _⟩ := Outcome.andThen_succeeds mapped
    cases last
    have table := (tickPlan_tuned tuned now).table
    rw [Dispatch.map_result selected, table]
    apply Dispatch.select_allowed
    intro c planned
    rw [planned] at ticked
    exact tickPlan_allowed tuned bounded ticked

end Supervisor

namespace Run

def Progress.Sends {R : Type} [Scalar R] (m : Moment R) (s : Supervisor R) (p : Progress R) : Prop :=
  ∀ h ∈ p.handed, (∃ posture, h.command = .posture posture) ∨
    ∃ choice, (s.choose m.plan).result = .ok choice ∧ h.command = choice.command

section
variable {R : Type} [Scalar R] {m : Moment R} {s : Supervisor R} {p : Progress R}

theorem sends_posture {posture : Posture} (sent : p.request = .send (.posture posture)) :
    p.Sends m s := by
  intro h member
  rw [Progress.handed, sent] at member
  exact .inl ⟨posture, congrArg Handed.command (List.mem_singleton.mp member)⟩

theorem sends_nothing (silent : p.handed = []) : p.Sends m s := by
  intro h member
  rw [silent] at member
  cases member

theorem windDown_sends (t : Supervisor R) (e : Ending R) : (windDown m t e).Sends m s := by
  rcases windDown_cases m t e with ⟨_, _, sent, _⟩ | ⟨_, _, finished, _⟩
  · exact sends_posture sent
  · exact sends_nothing (by rw [Progress.handed, finished])

theorem balance_sends (n : Nat) : (balance m s n).Sends m s := by
  rcases balance_cases m s n with ⟨_, eq⟩ | ⟨left, _, _, eq⟩ | ⟨_, eq⟩
  · rw [eq]; exact sends_posture rfl
  · rw [eq]; exact sends_posture rfl
  · rw [eq]; exact windDown_sends s _

theorem stand_sends (n : Nat) : (stand m s n).Sends m s := by
  rcases stand_cases m s n with ⟨_, notes, eq⟩ | ⟨left, _, _, eq⟩ | ⟨_, eq⟩
  · rw [eq]; exact balance_sends _
  · rw [eq]; exact sends_posture rfl
  · rw [eq]; exact windDown_sends s _

theorem nextTick_sends (k : Keeper R) : (nextTick m s k).Sends m s := by
  rcases nextTick_cases m s k with
    ⟨_, eq⟩ | ⟨why, notes, _, _, eq⟩ | ⟨choice, notes, _, chosen, eq | eq⟩
  · rw [eq]; exact windDown_sends s _
  · rw [eq]; exact sends_posture rfl
  · rw [eq]
    intro h member
    exact .inr ⟨choice, chosen, congrArg Handed.command (List.mem_singleton.mp member)⟩
  · rw [eq]; exact sends_nothing rfl

theorem turn_sends {run : Run R} {reply : Reply R} (turn : Turn m s run reply p) :
    ∃ t, (t = s ∨ ∃ new, t = (s.transition (m.told new) new).1) ∧ p.Sends m t := by
  cases turn with
  | begins | neverBegins | staysOver | dwells | sent | paces | leaves | parkingFails | concludes
  | leavingFails | abandons => exact ⟨s, .inl rfl, sends_nothing rfl⟩
  | connects i notes => exact ⟨_, .inr ⟨.starting, rfl⟩, stand_sends _⟩
  | stands n => exact ⟨s, .inl rfl, stand_sends n⟩
  | balances posture n h => exact ⟨s, .inl rfl, balance_sends n⟩
  | halts notes =>
    rcases activate_cases m s with ⟨e, eq⟩ | ⟨e, more, _, eq⟩ | ⟨k, more, _, eq⟩
    · rw [eq]; exact ⟨s, .inl rfl, windDown_sends s e⟩
    · rw [eq]; exact ⟨s, .inl rfl, windDown_sends _ e⟩
    · rw [eq]; exact ⟨_, .inr ⟨.active, rfl⟩, nextTick_sends k⟩
  | trips choice k why => exact ⟨s, .inl rfl, sends_posture rfl⟩
  | ticks k => exact ⟨s, .inl rfl, nextTick_sends k⟩
  | closes run reply e notes h failed => exact ⟨s, .inl rfl, windDown_sends s e⟩

end

theorem turn_allowed {m : Moment Float} {s : Supervisor Float} {run : Run Float}
    {reply : Reply Float} {p : Progress Float} (turn : Turn m s run reply p)
    (tuned : s.Tuned speeds g) (bounded : 0.0 ≤ g.headingLimit) :
    ∀ h ∈ p.handed, h.command.Allowed speeds g := by
  intro h member
  obtain ⟨t, same, sends⟩ := turn_sends turn
  rcases sends h member with ⟨posture, still⟩ | ⟨choice, chosen, moves⟩
  · rw [still]
    trivial
  · have tuned' : t.Tuned speeds g := by
      rcases same with rfl | ⟨new, rfl⟩
      · exact tuned
      · exact (Supervisor.tuned_lasting speeds g).changes s (m.told new) new tuned
    rw [moves]
    exact Supervisor.choose_allowed tuned' bounded chosen

end Run

def Event.Tuned {R : Type} [Scalar R] (g : Gains R) : Event R → Prop
  | .upset r => r.Tuned g
  | _ => True

namespace Course

/-- The settings are as they were, and every command handed over so far is one that they allow. -/
structure Allowed (speeds : Speeds Float) (g : Gains Float) (c : Course Float) : Prop where
  tuned : c.supervisor.Tuned speeds g
  handed : ∀ h ∈ c.handed, h.command.Allowed speeds g

theorem allowed_step {c : Course Float} {e : Event Float} (bounded : 0.0 ≤ g.headingLimit)
    (sound : e.Tuned g) (before : c.Allowed speeds g) : (c.step e).Allowed speeds g := by
  cases e with
  | call k => exact ⟨Supervisor.obey_tuned before.tuned k, before.handed⟩
  | upset r => exact ⟨⟨before.tuned.table, sound⟩, before.handed⟩
  | answer m reply =>
    have turn := Run.resume_turn m c.supervisor c.run reply
    refine ⟨(Supervisor.tuned_lasting speeds g).turn turn before.tuned, ?_⟩
    intro h member
    rcases List.mem_append.mp member with earlier | now
    · exact before.handed h earlier
    · exact Run.turn_allowed turn before.tuned bounded h now

theorem allowed_after {events : List (Event Float)} {c : Course Float}
    (bounded : 0.0 ≤ g.headingLimit) (sound : ∀ e ∈ events, e.Tuned g)
    (before : c.Allowed speeds g) : (c.after events).Allowed speeds g :=
  after_keeps before fun _ e member => allowed_step bounded (sound e member)

end Course

namespace Watch

structure Allowed (speeds : Speeds Float) (g : Gains Float) (w : Watch Float) : Prop where
  tuned : w.supervisor.Tuned speeds g
  underWay : ∀ choice ∈ w.underWay, choice.command.Allowed speeds g

theorem tuned_step {R : Type} [Scalar R] {speeds : Speeds R} {g : Gains R} (w : Watch R) (d : Deed R)
    (tuned : w.supervisor.Tuned speeds g) : (w.step d).supervisor.Tuned speeds g :=
  w.step_lasting (Supervisor.tuned_lasting speeds g) tuned fun c _ => Supervisor.obey_tuned tuned c

theorem allowed_step {w : Watch Float} {d : Deed Float} (bounded : 0.0 ≤ g.headingLimit)
    (before : w.Allowed speeds g) : (w.step d).Allowed speeds g := by
  refine ⟨tuned_step w d before.tuned, ?_⟩
  cases d with
  | call c => exact before.underWay
  | beginTick now =>
    intro choice member
    change choice ∈ (w.beginTick now).underWay at member
    unfold beginTick at member
    dsimp only at member
    split at member
    · exact before.underWay choice member
    · rename_i chosen result
      split at member
      · rcases List.mem_append.mp member with earlier | new
        · exact before.underWay choice earlier
        · rw [List.mem_singleton.mp new]
          exact Supervisor.choose_allowed before.tuned bounded result
      · exact before.underWay choice member
  | endTick index reply =>
    intro choice member
    apply before.underWay choice
    change choice ∈ (w.endTick index reply).underWay at member
    unfold endTick at member
    split at member
    · exact List.mem_of_mem_eraseIdx member
    · exact List.mem_of_mem_eraseIdx member
  | fail m k why => exact before.underWay
  | windDown m e => exact before.underWay
  | conclude m e => exact before.underWay

theorem allowed_after (deeds : List (Deed Float)) {w : Watch Float}
    (bounded : 0.0 ≤ g.headingLimit) (before : w.Allowed speeds g) :
    (w.after deeds).Allowed speeds g :=
  after_keeps before fun _ _ _ => allowed_step bounded

theorem commands_sent_are_allowed {source : String} {runner : Runner Float}
    (made : Runner.create g source = .ok runner) (bounded : 0.0 ≤ g.headingLimit)
    (timing : Timing Float) (dispatch : Dispatch Float) (listeners : List Listener)
    (deeds : List (Deed Float)) :
    let w := (fresh timing dispatch runner listeners).after deeds
    (∀ choice ∈ w.underWay, choice.command.Allowed dispatch.speeds g) ∧
      (∀ t sample c, (w.supervisor.runner.tickAt t sample).result = .ok (some c) →
        c.Allowed dispatch.speeds g) ∧
      (∀ interface events, (∀ e ∈ events, e.Tuned g) →
        ∀ h ∈ ((Course.begin w.supervisor interface).after events).handed,
          h.command.Allowed dispatch.speeds g) ∧
      ∀ yaw target gain limit c : Float, 0.0 ≤ limit →
        Angle.correction yaw target gain limit = some c →
          -limit ≤ c ∧ c ≤ limit ∧ (c == c) = true := by
  intro w
  have first : (fresh timing dispatch runner listeners).Allowed dispatch.speeds g :=
    ⟨⟨rfl, Runner.create_tuned made⟩, by simp [fresh]⟩
  have now : w.Allowed dispatch.speeds g := allowed_after deeds bounded first
  refine ⟨now.underWay, ?_, ?_, ?_⟩
  · intro t sample c given
    exact Runner.tickAt_allowed now.tuned.runner bounded t sample given
  · intro interface events sound
    have begun : (Course.begin w.supervisor interface).Allowed dispatch.speeds g :=
      ⟨⟨now.tuned.table, now.tuned.runner⟩, by simp [Course.begin]⟩
    exact (Course.allowed_after bounded sound begun).handed
  · intro yaw target gain limit c nonneg corrected
    exact Angle.correction_within nonneg corrected

/-- A travel that gets a heading that is no number is steered at the limit of the correction. -/
theorem lost_heading_steers_at_limit :
    let deeds : List (Deed Float) :=
      [.call (.startPlan [.segment (.travel 10)] (some 0)),
        .call (.hear ⟨0, 0, 0, Number.notANumber, 0⟩), .beginTick (.frozen 0)]
    let timing : Timing Float := { Timing.standard with startupRepeats := 0 }
    let w := (fresh timing ⟨.standard, [], 0⟩ .standard [.recorder]).after deeds
    let events : List (Event Float) := [.answer (.frozen 0 true) .ok, .answer (.frozen 0.1 true) .ok]
    let c := (Course.begin w.supervisor "sim0").after events
    Runner.create .standard "elapsed" = .ok .standard ∧ 0.0 ≤ Gains.standard.headingLimit ∧
      w.underWay.map (·.command) = [.velocity ⟨0.5, 0, 0.3⟩] ∧
      c.handed = [⟨.halt, .stop⟩, ⟨.tick, .velocity ⟨0.5, 0, 0.3⟩⟩] ∧
      (∀ choice ∈ w.underWay, choice.command.Allowed .standard .standard) ∧
      ∀ h ∈ c.handed, h.command.Allowed .standard .standard := by
  intro deeds timing w events c
  have made : Runner.create .standard "elapsed" = .ok .standard := by rfl
  have bounded : 0.0 ≤ Gains.standard.headingLimit := by decide +kernel
  have sound : ∀ e ∈ events, e.Tuned Gains.standard := by simp [events, Event.Tuned]
  obtain ⟨ticks, _, course, _⟩ :=
    commands_sent_are_allowed made bounded timing ⟨.standard, [], 0⟩ [.recorder] deeds
  exact ⟨made, bounded, by decide +kernel, by decide +kernel, ticks, course "sim0" events sound⟩

end Watch
end Quadruped
