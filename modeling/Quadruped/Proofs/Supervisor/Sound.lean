import Quadruped.Proofs.Plan.Sound
import Quadruped.Proofs.Supervisor.Failsafe
import Quadruped.Proofs.Supervisor.PlanMode

/-!
A supervisor that cannot fail. Its settings are finite and so is what other tasks bring into it, no
command is lost on its way to the robot, and the dispatch breaks down in no call: then every tick
chooses a finite command, and failsafe is never entered.
-/
namespace Quadruped

open Number

theorem Velocity.finite_of_none_bad {v : Velocity Float} (good : v.firstBad? = none) : v.Finite := by
  simpa [firstBad?, Scalar.finite, Velocity.Finite] using good

namespace Dispatch

/-- A dispatch whose directions have finite velocities, and that breaks down in no call. -/
structure Sound (d : Dispatch Float) : Prop where
  unbroken : d.breakdowns = []
  table : ∀ direction v, d.speeds.velocity direction = some v → v.Finite

theorem ofSpeeds_sound {speeds : Speeds Float} {d : Dispatch Float}
    (made : ofSpeeds speeds [] = .ok d) : d.Sound := by
  unfold ofSpeeds Speeds.checked at made
  split at made
  · cases made
  · rename_i good
    cases made
    refine ⟨rfl, ?_⟩
    intro direction v entry
    have listed : v ∈ Direction.all.filterMap speeds.velocity :=
      List.mem_filterMap.mpr ⟨direction, by cases direction <;> decide, entry⟩
    exact Velocity.finite_of_none_bad (List.findSome?_eq_none_iff.mp good v listed)

variable {d : Dispatch Float} {plan : Option (Command Float)}

theorem commandFor_finite (sound : d.Sound) (planned : ∀ c, plan = some c → c.Finite) {m : Mode}
    {c : Command Float} (selected : commandFor d.speeds plan m = some c) : c.Finite := by
  unfold commandFor at selected
  split at selected
  · cases selected
    trivial
  · cases plan with
    | none =>
      cases selected
      trivial
    | some given =>
      cases selected
      exact planned _ rfl
  · obtain ⟨direction, _, rfl⟩ := Option.map_eq_some_iff.mp selected
    unfold Speeds.command
    split
    · rename_i v entry
      exact sound.table direction v entry
    · trivial
  · obtain ⟨p, _, rfl⟩ := Option.map_eq_some_iff.mp selected
    trivial

theorem map_sound (sound : d.Sound) (planned : ∀ c, plan = some c → c.Finite) (m : Mode) :
    (d.map m plan).state.Sound ∧ ∃ c, (d.map m plan).result = .ok c ∧ c.Finite := by
  unfold map
  dsimp only
  rw [if_neg (by simp [sound.unbroken])]
  refine ⟨⟨sound.unbroken, sound.table⟩, _, rfl, ?_⟩
  unfold select
  dsimp only
  split
  · rename_i c selected
    exact commandFor_finite sound planned selected
  · trivial

end Dispatch

def Call.Finite : Call Float → Prop
  | .startPlan _ heading => ∀ h, heading = some h → isFinite h = true
  | .hear pose => isFinite pose.yaw = true
  | _ => True

namespace Supervisor

structure Sound (g : Gains Float) (s : Supervisor Float) : Prop where
  runner : s.runner.Sound g
  dispatch : s.dispatch.Sound
  sample : ∀ pose, s.sampler.slot.value = some pose → isFinite pose.yaw = true

section
variable {g : Gains Float} {s : Supervisor Float}

def Ticks (g : Gains Float) (s : Supervisor Float) (given : Runner.Given Float) : Prop :=
  s.Sound g ∧ Runner.GivesFinite given

theorem tickPlan_sound (sound : s.Sound g) (steers : g.Finite) (now : Instants Float) :
    Ticks g (s.tickPlan now).state (s.tickPlan now).result := by
  have ticked := Runner.tickAt_ticked s.runner now s.sampler.slot.value
  obtain ⟨left, gives⟩ := Runner.ticked_sound ticked sound.runner steers sound.sample
  have after : Sound g { s with runner := (s.runner.tickAt now s.sampler.slot.value).state } :=
    ⟨left, sound.dispatch, sound.sample⟩
  unfold tickPlan
  split
  · exact ⟨after, gives⟩
  · split
    · obtain ⟨x, ok, _⟩ := gives
      exact Outcome.andThen_leads (Ticks g) ok ⟨after, Runner.gives_nothing⟩
    · exact ⟨sound, Runner.gives_nothing⟩

def Chooses (g : Gains Float) (s : Supervisor Float)
    (result : Except (Fault Float) (Choice Float)) : Prop :=
  s.Sound g ∧ ∃ choice, result = .ok choice ∧ choice.command.Finite

theorem choose_sound (sound : s.Sound g) (steers : g.Finite) (now : Instants Float) :
    Chooses g (s.choose now).state (s.choose now).result := by
  obtain ⟨ticked, plan, given, finite⟩ := tickPlan_sound sound steers now
  apply Outcome.andThen_leads (Chooses g) given
  split
  · exact ⟨ticked, _, rfl, trivial⟩
  · obtain ⟨mapped, c, chosen, fine⟩ := Dispatch.map_sound ticked.dispatch finite s.currentMode
    exact Outcome.andThen_leads (Chooses g) chosen
      ⟨⟨ticked.runner, mapped, ticked.sample⟩, _, rfl, fine⟩

theorem sound_abiding (g : Gains Float) : Abiding (Sound g) where
  same _ _ _ dispatch runner sampler sound :=
    ⟨runner ▸ sound.runner, dispatch ▸ sound.dispatch, sampler ▸ sound.sample⟩
  cancels _ sound := ⟨Runner.cancel_sound sound.runner, sound.dispatch, sound.sample⟩

theorem sound_lasting (steers : g.Finite) : Lasting (Sound g) :=
  (sound_abiding g).lasting fun _ now sound => (choose_sound sound steers now).1

theorem obey_sound (sound : s.Sound g) {c : Call Float} (finite : c.Finite) :
    (s.obey c).Sound g := by
  refine (sound_abiding g).obey sound ?_ ?_
  · rintro items heading rfl
    exact ⟨Runner.start_sound sound.runner items finite, sound.dispatch, sound.sample⟩
  · rintro pose rfl
    refine ⟨sound.runner, sound.dispatch, ?_⟩
    rintro sample same
    cases same
    exact finite

end

end Supervisor

/-- What happens to a run whose transport never fails. -/
def Event.Harmless : Event Float → Prop
  | .call c => c.Finite
  | .upset _ => False
  | .answer _ reply => ∀ why, reply ≠ .raised why

def Deed.Harmless : Deed Float → Prop
  | .call c => c.Finite
  | .fail .. => False
  | _ => True

variable {g : Gains Float}

/-- A supervisor that has not failed and cannot fail. -/
structure Supervisor.Steady (g : Gains Float) (s : Supervisor Float) : Prop where
  sound : s.Sound g
  outside : s.status ≠ .failsafe

namespace Course

theorem steady_step {c : Course Float} {e : Event Float} (steady : c.supervisor.Steady g)
    (steers : g.Finite) (harmless : e.Harmless) : (c.step e).supervisor.Steady g := by
  cases e with
  | call k =>
    refine ⟨Supervisor.obey_sound steady.sound harmless, ?_⟩
    simpa [step] using steady.outside
  | upset r => exact harmless.elim
  | answer m reply =>
    have turn := Run.resume_turn m c.supervisor c.run reply
    have lasting := Supervisor.sound_lasting steers
    refine ⟨lasting.turn turn steady.sound, ?_⟩
    intro inside
    -- nothing but a lost command or a tick that fails could have brought the run there
    rcases (Run.enters_by_tripping turn steady.outside inside).2 with
      ⟨why, raised⟩ | ⟨t, why, same, failed⟩
    · exact harmless why raised
    · have chooses : t.Sound g := by
        rcases same with rfl | rfl
        · exact steady.sound
        · exact lasting.changes _ (m.told .active) .active steady.sound
      obtain ⟨_, choice, chosen, _⟩ := Supervisor.choose_sound chooses steers m.plan
      cases failed.symm.trans chosen

theorem steady_after {events : List (Event Float)} {c : Course Float}
    (steady : c.supervisor.Steady g) (steers : g.Finite) (harmless : ∀ e ∈ events, e.Harmless) :
    (c.after events).supervisor.Steady g :=
  after_keeps (P := fun c => c.supervisor.Steady g) steady
    fun _ e member steady => steady_step steady steers (harmless e member)

end Course

namespace Watch

theorem outside_step {w : Watch Float} {d : Deed Float} (outside : w.supervisor.status ≠ .failsafe)
    (harmless : d.Harmless) : (w.step d).supervisor.status ≠ .failsafe := by
  have wired (s : Supervisor Float) (c : Command Float) (before : s.status ≠ .failsafe) :
      (s.wire c).1.status ≠ .failsafe := by
    rwa [Supervisor.wire_status]
  have settled (s : Supervisor Float) (m : Mode) (before : s.status ≠ .failsafe) :
      (s.settle m).1.status ≠ .failsafe := by
    obtain ⟨_, eq⟩ := s.settle_only m
    rwa [eq]
  cases d with
  | call c => simpa [step] using outside
  | beginTick now =>
    have chosen : (w.supervisor.choose now).state.status ≠ .failsafe := by
      rwa [Supervisor.choose_status]
    exact w.beginTick_keeps now (P := fun s => s.status ≠ .failsafe) chosen wired settled
  | endTick index reply =>
    exact w.endTick_keeps index reply (P := fun s => s.status ≠ .failsafe) outside
      (fun _ _ before => before) settled
  | fail m k why => exact harmless.elim
  | windDown m e => exact fun inside => outside (Run.windDown_calm inside)
  | conclude m e =>
    intro inside
    cases (w.supervisor.transition_status (m.told .stopped) .stopped).symm.trans inside

theorem steady_step {w : Watch Float} {d : Deed Float} (steady : w.supervisor.Steady g)
    (steers : g.Finite) (harmless : d.Harmless) : (w.step d).supervisor.Steady g := by
  refine ⟨w.step_lasting (Supervisor.sound_lasting steers) steady.sound ?_,
    outside_step steady.outside harmless⟩
  rintro c rfl
  exact Supervisor.obey_sound steady.sound harmless

theorem steady_after {deeds : List (Deed Float)} {w : Watch Float}
    (steady : w.supervisor.Steady g) (steers : g.Finite) (harmless : ∀ d ∈ deeds, d.Harmless) :
    (w.after deeds).supervisor.Steady g :=
  after_keeps (P := fun w => w.supervisor.Steady g) steady
    fun _ d member steady => steady_step steady steers (harmless d member)

end Watch

namespace Supervisor

def ChoosesFinite (s : Supervisor Float) (now : Instants Float) : Prop :=
  ∃ choice, (s.choose now).result = .ok choice ∧ choice.command.Finite

/-- Neither by itself nor under a supervisor does a plan fail that has finite settings and is steered
by finite poses, whatever is done and in whatever order; so failsafe is never entered, as long as the
transport does not fail. -/
theorem finite_settings_never_fail {source : String} {runner : Runner Float} {speeds : Speeds Float}
    {dispatch : Dispatch Float} (made : Runner.create g source = .ok runner) (steers : g.Finite)
    (table : Dispatch.ofSpeeds speeds [] = .ok dispatch) (timing : Timing Float)
    (listeners : List Listener) :
    (∀ acts : List (Pilot.Act Float), (∀ a ∈ acts, a.Finite) →
        ∀ given ∈ ((Pilot.ofRunner runner).fly acts).2, Runner.GivesFinite given) ∧
      ∀ deeds : List (Deed Float), (∀ d ∈ deeds, d.Harmless) →
        let s := ((Watch.fresh timing dispatch runner listeners).after deeds).supervisor
        (s.status ≠ .failsafe ∧ ∀ now, s.ChoosesFinite now) ∧
          ∀ interface events, (∀ e ∈ events, e.Harmless) →
            let t := ((Course.begin s interface).after events).supervisor
            t.status ≠ .failsafe ∧ ∀ now, t.ChoosesFinite now := by
  have sound := Runner.create_sound made
  have chooses {s : Supervisor Float} (steady : s.Steady g) (now : Instants Float) :
      s.ChoosesFinite now :=
    (choose_sound steady.sound steers now).2
  constructor
  · intro acts finite
    have pilot : (Pilot.ofRunner runner).Sound g := ⟨sound, by simp [Pilot.ofRunner, Sampler.empty]⟩
    exact (Pilot.fly_sound finite pilot steers).2
  · intro deeds harmless s
    have first : (Watch.fresh timing dispatch runner listeners).supervisor.Steady g :=
      ⟨⟨sound, Dispatch.ofSpeeds_sound table, by simp [Watch.fresh, create, Sampler.empty]⟩,
        by simp [Watch.fresh, create]⟩
    have steady : s.Steady g := Watch.steady_after first steers harmless
    refine ⟨⟨steady.outside, chooses steady⟩, ?_⟩
    intro interface events quiet t
    have begun : (Course.begin s interface).supervisor.Steady g :=
      ⟨(sound_lasting steers).runs s true steady.sound, steady.outside⟩
    have going : t.Steady g := Course.steady_after begun steers quiet
    exact ⟨going.outside, chooses going⟩

/-- Every setting is the greatest double, and the robot has turned almost as far: the product of its
error and the gain overflows, but nothing fails. -/
theorem greatest_settings_never_fail :
    let top : Float := .ofBits 0x7FEFFFFFFFFFFFFF
    let yaw : Float := .ofBits 0x7FEFFFFFFFFFFFFE
    let g : Gains Float := ⟨top, 1, top, top, top, top⟩
    let runner : Runner Float :=
      { Runner.standard with gains := g, source := .pose, turn := .ofRates top 1 }
    let speeds : Speeds Float := ⟨top, top, top, top⟩
    let timing : Timing Float := { Timing.standard with startupRepeats := 0 }
    let deeds : List (Deed Float) :=
      [.call (.startPlan [.segment (.travel top)] (some (-top))), .call (.hear ⟨top, 0, 0, yaw, 0⟩)]
    let events : List (Event Float) :=
      [.answer (.frozen 0 true) .ok, .answer (.frozen 0 true) .ok, .answer (.frozen 0 true) .ok]
    let s := ((Watch.fresh timing ⟨speeds, [], 0⟩ runner []).after deeds).supervisor
    let c := (Course.begin s "sim0").after events
    Runner.create g "pose" = .ok runner ∧ Dispatch.ofSpeeds speeds [] = .ok ⟨speeds, [], 0⟩ ∧
      c.handed = [⟨.halt, .stop⟩, ⟨.tick, .velocity ⟨top, 0, top⟩⟩] ∧
      c.supervisor.status ≠ .failsafe ∧ c.supervisor.ChoosesFinite (.frozen top) := by
  intro top yaw g runner speeds timing deeds events s c
  have made : Runner.create g "pose" = .ok runner := by decide +kernel
  have table : Dispatch.ofSpeeds speeds [] = .ok ⟨speeds, [], 0⟩ := by decide +kernel
  have steers : g.Finite := ⟨by decide +kernel, by decide +kernel, by decide +kernel⟩
  have heading : ∀ h, some (-top) = some h → isFinite h = true := by
    rintro h same
    cases same
    decide +kernel
  have pose : isFinite yaw = true := by decide +kernel
  have harmless : ∀ d ∈ deeds, d.Harmless := by
    simp only [deeds, List.forall_mem_cons]
    exact ⟨heading, pose, by simp⟩
  have quiet : ∀ e ∈ events, e.Harmless := by simp [events, Event.Harmless]
  obtain ⟨_, going⟩ := (finite_settings_never_fail made steers table timing []).2 deeds harmless
  obtain ⟨outside, chooses⟩ := going "sim0" events quiet
  exact ⟨made, table, by decide +kernel, outside, chooses (.frozen top)⟩

end Supervisor
end Quadruped
