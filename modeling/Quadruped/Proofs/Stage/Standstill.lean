import Quadruped.Proofs.Angle
import Quadruped.Proofs.Number.Zero
import Quadruped.Proofs.Stage.Account

/-!
A robot that has been halted stays where it is until it takes a velocity. Time still passes for it, and
the place that it comes to is computed anew at every act; with velocities of zero that computation
changes nothing, as long as the time and the disturbance of its heading are finite.
-/
namespace Quadruped

open Number

variable {R : Type} [Scalar R]

namespace Stage

def Takes (s : Stage R) (c : Command R) (now : Simulator.Readings R) : Prop :=
  s.simulator.connected = true ∧ (s.perform (.send c now)).result.toOption.isSome = true

def Halts (s : Stage R) : Act R → Prop
  | .disconnect => True
  | .send (.posture p) now => s.Takes (.posture p) now
  | _ => False

def Undriven (s : Stage R) : Act R → Prop
  | .send (.velocity v) now => ¬s.Takes (.velocity v) now
  | _ => True

/-- The time by which an act lets the robot move on is finite. -/
def Timely (s : Stage R) (act : Act R) : Prop :=
  ∀ dt ∈ s.simulator.lapse act, Scalar.finite dt = true

/-- The last of these acts halts the robot, or it has taken no velocity yet. -/
def Halted (s : Stage R) (acts : List (Act R)) : Prop :=
  s.Along Undriven acts ∨ ∃ first act, acts = first ++ [act] ∧ (s.after first).Halts act

instance (s : Stage R) (c : Command R) (now : Simulator.Readings R) : Decidable (s.Takes c now) :=
  inferInstanceAs (Decidable (_ ∧ _))

instance (s : Stage R) (act : Act R) : Decidable (s.Halts act) := by
  unfold Halts
  split <;> infer_instance

instance (s : Stage R) (act : Act R) : Decidable (s.Undriven act) := by
  unfold Undriven
  split <;> infer_instance

instance (s : Stage R) (act : Act R) : Decidable (s.Timely act) := by
  unfold Timely
  infer_instance

theorem halts_velocity {s : Stage R} (clocked : s.simulator.Clocked) {act : Act R}
    (halts : s.Halts act) : (s.perform act).state.simulator.velocity = .zero := by
  have effect := (perform_effect clocked act).1
  generalize (s.perform act).state.simulator = t, same : (s.perform act).result = result at effect
  cases effect with
  | disconnect => rfl
  | subscribe | connect | step | stall => exact halts.elim
  | drop c now apart =>
    cases c with
    | velocity v => exact halts.elim
    | posture p => exact absurd halts.1 (by simp [apart])
  | take c =>
    cases c with
    | velocity v => exact halts.elim
    | posture p => rfl
  | refuse c =>
    cases c with
    | velocity v => exact halts.elim
    | posture p =>
      have taken := halts.2
      rw [same] at taken
      cases taken

theorem undriven_velocity {s : Stage R} (clocked : s.simulator.Clocked) {act : Act R}
    (undriven : s.Undriven act) (halted : s.simulator.velocity = .zero) :
    (s.perform act).state.simulator.velocity = .zero := by
  have effect := (perform_effect clocked act).1
  generalize (s.perform act).state.simulator = t, same : (s.perform act).result = result at effect
  cases effect with
  | disconnect => rfl
  | subscribe | connect | step | stall | drop | refuse => exact halted
  | take c now dt yaw connected =>
    cases c with
    | posture p => rfl
    | velocity v =>
      refine absurd ⟨connected, ?_⟩ undriven
      rw [same]
      rfl

theorem halted_velocity {s : Stage R} (clocked : s.simulator.Clocked)
    (resting : s.simulator.velocity = .zero) {acts : List (Act R)} (halted : s.Halted acts) :
    (s.after acts).simulator.velocity = .zero := by
  rcases halted with undriven | ⟨first, act, rfl, halts⟩
  · induction acts generalizing s with
    | nil => exact resting
    | cons act later ih =>
      exact ih ((perform_effect clocked act).1.clocked clocked)
        (undriven_velocity clocked undriven.1 resting) undriven.2
  · rw [after_append]
    exact halts_velocity (after_clocked clocked first) halts

end Stage

namespace Angle

variable {v w h : Float}

theorem Wrapped.of_beq (wrapped : Wrapped w) (same : (v == w) = true) : Wrapped v := by
  refine ⟨isFinite_of_beq same wrapped.finite, ?_, ?_⟩
  · rw [lt_iff_compare, (compare_of_beq same _).1]
    exact lt_iff_compare.mp wrapped.above
  · rw [le_iff_compare, (compare_of_beq same _).2]
    exact le_iff_compare.mp wrapped.below

theorem wrapped_of_value (value : decoded h ≠ .notANumber) (turned : normalize h = some w) :
    Wrapped w := by
  cases finite : isFinite h with
  | true =>
    obtain ⟨r, wrapped, inside⟩ := normalize_wrapped finite
    exact Option.some.inj (turned.symm.trans wrapped) ▸ inside
  | false =>
    obtain ⟨negative, lost⟩ := infinite_of_value value finite
    rw [normalize_fails.mpr ⟨negative, lost⟩] at turned
    cases turned

theorem normalize_notANumber (none : decoded h = .notANumber) (lost : isFinite h = false)
    (turned : normalize h = some w) : w = h := by
  have not_number : isNaN h = true := by
    by_contra value
    obtain ⟨negative, infinite⟩ := infinite_of_lost (Bool.eq_false_of_not_eq_true value) lost
    rw [normalize_fails.mpr ⟨negative, infinite⟩] at turned
    cases turned
  have above : Scalar.le h (-Scalar.pi) = false := by
    refine decide_eq_false fun below => ?_
    have order := le_iff_compare.mp below
    rw [none] at order
    simp [Float.Model.UnpackedFloat.compare] at order
  -- the remainder of what is no number is that again, and its test for the seam fails
  have kept : normalize h = some h := by
    change (remainder h Scalar.twoPi).map _ = _
    rw [remainder, if_pos not_number, Option.map_some, above]
    rfl
  exact Option.some.inj (turned.symm.trans kept)

theorem wrapped_of_normalize (turned : normalize h = some w) (finite : isFinite w = true) :
    Wrapped w := by
  refine wrapped_of_value (fun none => ?_) turned
  cases known : isFinite h with
  | true => exact isFinite_value known none
  | false =>
    rw [normalize_notANumber none known turned, known] at finite
    cases finite

end Angle

namespace Simulator

variable {base s t : Simulator Float}

/-- A pose at the place of a robot, and turned as it is, unless something disturbs the heading. -/
def Rests (base : Simulator Float) (p : Pose Float) : Prop :=
  (p.x == base.x) = true ∧ (p.y == base.y) = true ∧ p.z = base.z ∧
    ((base.drift == 0) = true → (p.yaw == base.yaw) = true)

instance (base : Simulator Float) (p : Pose Float) : Decidable (base.Rests p) :=
  inferInstanceAs (Decidable (_ ∧ _ ∧ _ ∧ _))

structure Stands (base s : Simulator Float) : Prop where
  velocity : s.velocity = .zero
  rests : ∀ now, base.Rests (s.pose now)
  drift : s.drift = base.drift
  yaw : Angle.Wrapped s.yaw

structure Known (base : Simulator Float) : Prop where
  x : isFinite base.x = true
  y : isFinite base.y = true
  drift : isFinite base.drift = true

theorem add_still {x c d dt : Float} (finite : isFinite x = true) (first : isFinite c = true)
    (second : isFinite d = true) (time : isFinite dt = true) :
    (x + (0 * c - 0 * d) * dt == x) = true ∧ (x + (0 * c + 0 * d) * dt == x) = true := by
  have left : IsZero (0 * c) := isZero_zero.mul first
  have right : IsZero (0 * d) := isZero_zero.mul second
  exact ⟨((left.sub right).mul time).add_beq finite, ((left.add right).mul time).add_beq finite⟩

theorem Stands.displaced (known : base.Known) (stands : base.Stands s) {dt : Float}
    (time : isFinite dt = true) : base.Stands (s.displaced dt) := by
  obtain ⟨velocity, rests, drift, yaw⟩ := stands
  obtain ⟨x, y, z, faces⟩ := rests 0
  have cosine := cosine_isFinite yaw.finite
  have sine := sine_isFinite yaw.finite
  refine ⟨velocity, fun now => ⟨?_, ?_, z, faces⟩, drift, yaw⟩
  · have moved := (add_still (isFinite_of_beq x known.x) cosine sine time).1
    change (s.x + (s.velocity.forward * _ - s.velocity.lateral * _) * dt == base.x) = true
    rw [velocity]
    exact beq_trans moved x
  · have moved := (add_still (isFinite_of_beq y known.y) sine cosine time).2
    change (s.y + (s.velocity.forward * _ + s.velocity.lateral * _) * dt == base.y) = true
    rw [velocity]
    exact beq_trans moved y

theorem Stands.turned (known : base.Known) (stands : base.Stands s) {dt w : Float}
    (time : isFinite dt = true) (turned : Angle.normalize (s.heading dt) = some w) :
    Angle.Wrapped w ∧ ((base.drift == 0) = true → (w == s.yaw) = true) := by
  obtain ⟨velocity, _, drift, yaw⟩ := stands
  have heading : s.heading dt = s.yaw + (0 + base.drift) * dt := by
    rw [Simulator.heading, velocity, drift]
    rfl
  rw [heading] at turned
  have rate : isFinite (0 + base.drift) = true :=
    isFinite_of_beq (isZero_zero.beq_add known.drift) known.drift
  have value := add_value yaw.finite (mul_value rate time)
  refine ⟨Angle.wrapped_of_value value turned, fun undisturbed => ?_⟩
  have still : IsZero (0 + base.drift) := isZero_zero.add (isZero_of_beq undisturbed)
  have same : (s.yaw + (0 + base.drift) * dt == s.yaw) = true :=
    (still.mul time).add_beq yaw.finite
  rw [(yaw.of_beq same).normalize_eq] at turned
  exact Option.some.inj turned ▸ same

theorem Stands.moved (known : base.Known) (stands : base.Stands s) {dt w : Float}
    (time : isFinite dt = true) (turned : Angle.normalize (s.heading dt) = some w) :
    base.Stands (s.moved dt w) := by
  obtain ⟨wrapped, faces⟩ := stands.turned known time turned
  obtain ⟨velocity, rests, drift, yaw⟩ := stands.displaced known time
  obtain ⟨x, y, z, before⟩ := rests 0
  exact ⟨velocity, fun now => ⟨x, y, z, fun undisturbed =>
    beq_trans (faces undisturbed) (before undisturbed)⟩, drift, wrapped⟩

end Simulator

namespace Stage

open Simulator

variable {base : Simulator Float} {s : Stage Float}

theorem perform_stands (known : base.Known) (clocked : s.simulator.Clocked)
    (stands : base.Stands s.simulator) {act : Act Float} (undriven : s.Undriven act)
    (timely : s.Timely act) :
    base.Stands (s.perform act).state.simulator ∧
      ∀ p, (s.perform act).result = .ok (some p) → base.Rests p := by
  have effect := (perform_effect clocked act).1
  generalize (s.perform act).state.simulator = t, same : (s.perform act).result = result at effect
  cases effect with
  | subscribe | drop => exact ⟨stands, nofun⟩
  | disconnect => exact ⟨⟨rfl, stands.rests, stands.drift, stands.yaw⟩, nofun⟩
  | connect interface now =>
    refine ⟨⟨stands.velocity, stands.rests, stands.drift, stands.yaw⟩, ?_⟩
    intro p shown
    split at shown
    · cases shown
      exact stands.rests now.published
    · cases shown
  | take c now dt yaw connected lapses turned =>
    have moved := stands.moved known (timely dt lapses) turned
    refine ⟨?_, ?_⟩
    · cases c with
      | posture p => exact ⟨rfl, moved.rests, moved.drift, moved.yaw⟩
      | velocity v =>
        refine absurd ⟨connected, ?_⟩ undriven
        rw [same]
        rfl
    · rintro p ⟨⟩
      exact moved.rests now.published
  | refuse c now dt connected lapses => exact ⟨stands.displaced known (timely dt lapses), nofun⟩
  | step dt now yaw turned =>
    have moved := stands.moved known (timely dt rfl) turned
    refine ⟨moved, ?_⟩
    rintro p ⟨⟩
    exact moved.rests now
  | stall dt now => exact ⟨stands.displaced known (timely dt rfl), nofun⟩

theorem after_stands (known : base.Known) (clocked : s.simulator.Clocked)
    (stands : base.Stands s.simulator) {acts : List (Act Float)} (undriven : s.Along Undriven acts)
    (timely : s.Along Timely acts) :
    base.Stands (s.after acts).simulator ∧ ∀ p ∈ s.showings acts, base.Rests p := by
  induction acts generalizing s with
  | nil => exact ⟨stands, nofun⟩
  | cons act later ih =>
    obtain ⟨next, shown⟩ := perform_stands known clocked stands undriven.1 timely.1
    obtain ⟨stays, rest⟩ :=
      ih ((perform_effect clocked act).1.clocked clocked) next undriven.2 timely.2
    refine ⟨stays, fun p member => ?_⟩
    rcases List.mem_append.mp member with now | afterwards
    · refine shown p ?_
      cases given : (s.perform act).result with
      | error why => simp [given, Except.toOption] at now
      | ok q =>
        cases q with
        | none => simp [given, Except.toOption] at now
        | some q => simpa [given, Except.toOption, eq_comm] using now
    · exact rest p afterwards

structure Oriented (drift : Float) (s : Simulator Float) : Prop where
  drift : s.drift = drift
  yaw : isFinite s.yaw = true → Angle.Wrapped s.yaw

theorem effect_oriented {drift : Float} {s t : Simulator Float} {act : Act Float}
    {result : Except (Fault Float) (Option (Pose Float))} (effect : s.Effect act t result)
    (oriented : Oriented drift s) : Oriented drift t := by
  obtain ⟨same, yaw⟩ := oriented
  cases effect with
  | subscribe | connect | disconnect | drop | refuse | stall => exact ⟨same, yaw⟩
  | step dt now w turned => exact ⟨same, Angle.wrapped_of_normalize turned⟩
  | take c now dt w connected lapses turned =>
    cases c <;> exact ⟨same, Angle.wrapped_of_normalize turned⟩

theorem after_oriented {drift : Float} (clocked : s.simulator.Clocked)
    (oriented : Oriented drift s.simulator) (acts : List (Act Float)) :
    Oriented drift (s.after acts).simulator := by
  induction acts generalizing s with
  | nil => exact oriented
  | cons act later ih =>
    have effect := (perform_effect clocked act).1
    exact ih (effect.clocked clocked) (effect_oriented effect oriented)

theorem create_oriented {setup : Setup Float} {robot : Simulator Float}
    (made : create setup = .ok robot) :
    Oriented setup.drift robot ∧ robot.velocity = .zero ∧ robot.Clocked := by
  unfold create at made
  split at made
  · cases made
  · rename_i yaw turned
    split at made
    · cases made
    · cases made
      exact ⟨⟨rfl, Angle.wrapped_of_normalize turned⟩, rfl, nofun⟩

/-- A robot that has been halted at a known place, and whose heading is disturbed by a finite amount at
most, stays there as long as it takes no velocity and no time that passes overflows; undisturbed it
keeps its heading, too. -/
theorem halted_robot_stays {setup : Setup Float} {robot : Simulator Float}
    (made : create setup = .ok robot) (drift : isFinite setup.drift = true)
    {first later : List (Act Float)} (halted : (ofSimulator robot).Halted first)
    (x : isFinite ((ofSimulator robot).after first).simulator.x = true)
    (y : isFinite ((ofSimulator robot).after first).simulator.y = true)
    (yaw : isFinite ((ofSimulator robot).after first).simulator.yaw = true)
    (undriven : ((ofSimulator robot).after first).Along Undriven later)
    (timely : ((ofSimulator robot).after first).Along Timely later) :
    let base := ((ofSimulator robot).after first).simulator
    (∀ now, base.Rests (((ofSimulator robot).after (first ++ later)).simulator.pose now)) ∧
      ∀ p ∈ ((ofSimulator robot).after first).showings later, base.Rests p := by
  intro base
  obtain ⟨oriented, resting, clocked⟩ := create_oriented made
  obtain ⟨same, wrapped⟩ := after_oriented (s := ofSimulator robot) clocked oriented first
  have known : base.Known := ⟨x, y, same.symm ▸ drift⟩
  have stands : base.Stands base :=
    ⟨halted_velocity (s := ofSimulator robot) clocked resting halted,
      fun _ => ⟨beq_self x, beq_self y, rfl, fun _ => beq_self yaw⟩, rfl, wrapped yaw⟩
  obtain ⟨stays, shown⟩ := after_stands known
    (after_clocked (s := ofSimulator robot) clocked first) stands undriven timely
  rw [after_append]
  exact ⟨stays.rests, shown⟩

theorem halted_robot_stays_through_reconnect :
    let start := ofSimulator Simulator.standard
    let first : List (Act Float) :=
      [.connect "sim" ⟨5, 5⟩, .send (.velocity ⟨0.5, 0.1, 0.3⟩) ⟨5, 5.5⟩, .send .stop ⟨7.5, 7⟩]
    let later : List (Act Float) :=
      [.disconnect, .step 2 8, .connect "sim" ⟨1, 1⟩, .send (.posture .sit) ⟨4, 5⟩,
        .send .stop ⟨3, 3⟩]
    (start.after first).simulator.Rests ((start.after (first ++ later)).simulator.pose 9) ∧
      ((start.after first).showings later).length = 4 ∧
      ∀ p ∈ (start.after first).showings later, (start.after first).simulator.Rests p := by
  intro start first later
  have halted : start.Halted first :=
    .inr ⟨[.connect "sim" ⟨5, 5⟩, .send (.velocity ⟨0.5, 0.1, 0.3⟩) ⟨5, 5.5⟩], .send .stop ⟨7.5, 7⟩,
      rfl, by decide +kernel⟩
  have undriven : (start.after first).Along Undriven later := by decide +kernel
  obtain ⟨rests, shown⟩ := halted_robot_stays create_standard (by decide +kernel) halted
    (by decide +kernel) (by decide +kernel) (by decide +kernel) undriven (by decide +kernel)
  exact ⟨rests 9, by decide +kernel, shown⟩

def Act.Finite : Act Float → Prop
  | .connect _ now => isFinite now.moved = true ∧ isFinite now.published = true
  | .send _ now => isFinite now.moved = true ∧ isFinite now.published = true
  | .step dt now => isFinite dt = true ∧ isFinite now = true
  | _ => True

instance (act : Act Float) : Decidable act.Finite := by
  unfold Act.Finite
  split <;> infer_instance

/-- A robot halted at a known place that does not stay there, although it takes no velocity and all
readings of the clock and all steps are finite. -/
def Strays (setup : Setup Float) (first later : List (Act Float)) : Prop :=
  ∃ robot, create setup = .ok robot ∧
    (ofSimulator robot).Halted first ∧
    isFinite ((ofSimulator robot).after first).simulator.x = true ∧
    isFinite ((ofSimulator robot).after first).simulator.y = true ∧
    isFinite ((ofSimulator robot).after first).simulator.yaw = true ∧
    ((ofSimulator robot).after first).Along Undriven later ∧
    (∀ act ∈ later, act.Finite) ∧
    ¬((ofSimulator robot).after first).simulator.Rests
      (((ofSimulator robot).after (first ++ later)).simulator.pose 0)

/-- Two finite readings may lie an infinite time apart, and an infinite disturbance is none for no time
only: either makes a place that is no number. -/
theorem halted_robot_strays_on_overflow :
    Strays .standard [.connect "sim" (.frozen (-1e308)), .send .stop (.frozen (-1e308))]
        [.send .stop (.frozen 1e308)] ∧
      Strays { Setup.standard with drift := infinite false } [] [.step 0 0, .step 0 0] := by
  have disturbed : create { Setup.standard with drift := infinite false } =
      .ok { Simulator.standard with drift := infinite false } := by
    have heading : Angle.normalize
        (Setup.start { Setup.standard with drift := infinite false }).yaw = some 0 := by
      decide +kernel
    rw [create, heading]
    rfl
  constructor
  · have halts : ((ofSimulator Simulator.standard).after
        [.connect "sim" (.frozen (-1e308))]).Halts (.send .stop (.frozen (-1e308))) := by
      decide +kernel
    exact ⟨_, create_standard, .inr ⟨[.connect "sim" (.frozen (-1e308))], _, rfl, halts⟩,
      by decide +kernel⟩
  · exact ⟨_, disturbed, .inl trivial, by decide +kernel⟩

end Stage
end Quadruped
