import Mathlib.Algebra.Order.Floor.Semiring
import Mathlib.Data.Rat.Floor
import Quadruped.Proofs.Plan.Tick
import Quadruped.Proofs.PointTurn
import Quadruped.Proofs.Robot
import Quadruped.Proofs.Supervisor.ModeRace

/-!
A point turn on the simulated robot, with exact numbers. Each tick sees the pose that the send of
the tick before it published, so the robot has turned on by one step from the heading that is acted
on. A step that is no wider than the arrival window cannot jump over it.
-/
namespace Quadruped

variable {R K : Type}

namespace Sampler

theorem updateTimes_slot (p : Pose R) {n : Nat} (some_time : 0 < n) (s : Sampler R) :
    (updateTimes p n s).1.slot.value = some p := by
  induction n generalizing s with
  | zero => cases some_time
  | succ n ih =>
    cases n with
    | zero => rfl
    | succ n => exact ih n.succ_pos (s.update p).1

end Sampler

theorem Supervisor.choose_planned [Scalar R] {s : Supervisor R} {t : Instants R} {c : Command R}
    (working : s.status ≠ .failsafe) (mapped : s.dispatch.breakdowns = [])
    (mode : s.currentMode = .autonomous)
    (ticked : (s.runner.tickAt t s.sampler.slot.value).result = .ok (some c)) :
    (s.choose t).result = .ok ⟨.autonomous, c⟩ ∧
      (s.choose t).state =
        { s with
          runner := (s.runner.tickAt t s.sampler.slot.value).state
          dispatch := { s.dispatch with calls := s.dispatch.calls + 1 } } := by
  have autonomous : s.currentMode.kind = .autonomous := by rw [mode]; rfl
  have planned : s.tickPlan t =
      (s.runner.tickAt t s.sampler.slot.value).within fun runner => { s with runner } :=
    if_pos autonomous
  have selected : Dispatch.select s.dispatch.speeds (some c) (.mode .autonomous) = (c, []) := rfl
  simp [choose, planned, Outcome.andThen, ticked, working, mode, Dispatch.map, mapped, selected]

open Circular Exact

variable [Field K] [LinearOrder K] [FloorRing K] [Circular K]

variable [IsStrictOrderedRing K]

namespace Runner

structure OnlyTurn (r : Runner K) (target : K) : Prop where
  phase : r.phase = .turning
  plan : r.plan = [.turn target]
  unpaused : r.pauseUntil = none
  begun : r.active = true → r.turn.turning = true ∧ r.turn.target = wrap target

theorem beginTurn_faces {r : Runner K} {target : K} (only : r.OnlyTurn target) :
    (r.beginTurn target).result = .ok () ∧
      (r.beginTurn target).state = r.facing (wrap target) := by
  unfold beginTurn
  cases active : r.active with
  | false =>
    rw [if_neg nofun, PointTurn.begin, normalize_exact]
    exact ⟨rfl, rfl⟩
  | true =>
    obtain ⟨turning, aim⟩ := only.begun active
    have same : { r.turn with target := wrap target, turning := true } = r.turn := by
      rw [← aim, ← turning]
    rw [if_pos rfl, facing, same, ← active]
    exact ⟨rfl, rfl⟩

theorem stepTurn_exact {r : Runner K} {target : K} (last : r.plan = [.turn target])
    (turning : r.turn.turning = true) (now yaw : K) :
    (Angle.inWindow r.turn.tolerance (wrap (r.turn.target - yaw)) = true →
      (r.stepTurn now yaw).result = .ok (some .stop) ∧
        (r.stepTurn now yaw).state.phase = .complete) ∧
    (Angle.inWindow r.turn.tolerance (wrap (r.turn.target - yaw)) = false →
      (r.stepTurn now yaw).result =
          .ok (some (.velocity ⟨0, 0, r.turn.rate (wrap (r.turn.target - yaw))⟩)) ∧
        (r.stepTurn now yaw).state = r) := by
  unfold stepTurn
  rw [PointTurn.step_exact turning]
  constructor
  · intro inside
    simp [inside, Outcome.andThen, advance, last, phaseOf]
  · intro outside
    simp [outside, Outcome.andThen, turning]

theorem tickAt_onlyTurn {r : Runner K} {target : K} (only : r.OnlyTurn target) (t : Instants K)
    (pose : Pose K) :
    (Angle.inWindow r.turn.tolerance (wrap (target - pose.yaw)) = true →
      (r.tickAt t (some pose)).result = .ok (some .stop) ∧
        (r.tickAt t (some pose)).state.phase = .complete) ∧
    (Angle.inWindow r.turn.tolerance (wrap (target - pose.yaw)) = false →
      (r.tickAt t (some pose)).result =
          .ok (some (.velocity ⟨0, 0, r.turn.rate (wrap (target - pose.yaw))⟩)) ∧
        (r.tickAt t (some pose)).state = r.facing (wrap target)) := by
  obtain ⟨begun, faced⟩ := beginTurn_faces only
  have running : r.isRunning = true := by rw [isRunning, only.phase]; rfl
  have ready : { r with pauseUntil := none } = r := by rw [← only.unpaused]
  have driven : r.tickAt t (some pose) =
      (r.beginTurn target).andThen fun r _ => r.stepTurn t.finish pose.yaw := by
    unfold tickAt
    rw [if_neg (by rw [only.phase]; decide), if_neg (by rw [running]; decide),
      if_neg (by rw [pausedAt, only.unpaused]; exact Bool.false_ne_true)]
    dsimp only
    rw [ready, drive, only.plan]
  have parts := Outcome.andThen_after_ok begun fun r _ => r.stepTurn t.finish pose.yaw
  have stepped := stepTurn_exact (r := r.facing (wrap target)) only.plan rfl t.finish pose.yaw
  have error : wrap ((r.facing (wrap target)).turn.target - pose.yaw) =
      wrap (target - pose.yaw) := wrap_wrap_sub target pose.yaw
  rw [error] at stepped
  rw [driven, parts.1, parts.2, faced]
  exact stepped

theorem facing_onlyTurn {r : Runner K} {target : K} (only : r.OnlyTurn target) :
    (r.facing (wrap target)).OnlyTurn target :=
  ⟨only.phase, only.plan, only.unpaused, fun _ => ⟨rfl, rfl⟩⟩

theorem start_onlyTurn {r : Runner K} (free : r.isRunning = false) (target : K)
    (heading : Option K) :
    (r.start [.segment (.turn target)] heading).result = .ok () ∧
      (r.start [.segment (.turn target)] heading).state.OnlyTurn target ∧
      (r.start [.segment (.turn target)] heading).state.turn = r.turn := by
  have checked : Plan.check [PlanItem.segment (.turn target)] = .ok [.turn target] := rfl
  unfold start
  rw [checked]
  dsimp only
  rw [if_neg (by rw [free]; nofun)]
  cases heading with
  | none => exact ⟨rfl, ⟨rfl, rfl, rfl, nofun⟩, rfl⟩
  | some h =>
    dsimp only
    rw [normalize_exact]
    exact ⟨rfl, ⟨rfl, rfl, rfl, nofun⟩, rfl⟩

end Runner

namespace Simulator

/-- Connected, with no drift, and turning on the spot at the given rate. -/
structure Spinning (s : Simulator K) (rate : K) : Prop where
  connected : s.connected = true
  steady : s.drift = 0
  velocity : s.velocity = ⟨0, 0, rate⟩

def elapsed (s : Simulator K) (now : K) : K :=
  match s.lastTime with
  | none => 0
  | some t => Scalar.larger 0 (now - t)

omit [IsStrictOrderedRing K] in
theorem elapsed_after {s : Simulator K} {now period : K} (last : s.lastTime = some now)
    (forward : 0 < period) : s.elapsed (now + period) = period := by
  unfold elapsed
  rw [last]
  dsimp only
  rw [add_sub_cancel_left, Scalar.larger, if_pos ((lt_exact _ _).mpr forward)]

theorem advance_exact (s : Simulator K) (dt : K) :
    ∃ x y, s.advance dt =
      .ok { s with x, y, yaw := wrap (s.yaw + (s.velocity.angular + s.drift) * dt) } () [] := by
  unfold advance
  dsimp only
  rw [normalize_exact]
  exact ⟨_, _, rfl⟩

theorem integrate_spinning {s : Simulator K} {rate : K} (spinning : s.Spinning rate) (now : K) :
    (s.integrate now).result = .ok () ∧
      (s.integrate now).state.Spinning rate ∧
      (s.integrate now).state.lastTime = some now ∧
      ∀ target : K, wrap (target - (s.integrate now).state.yaw) =
        wrap (target - s.yaw - rate * s.elapsed now) := by
  obtain ⟨connected, steady, velocity⟩ := spinning
  unfold integrate elapsed
  cases last : s.lastTime with
  | none => exact ⟨rfl, ⟨connected, steady, velocity⟩, rfl, fun target => by simp⟩
  | some t =>
    obtain ⟨x, y, moved⟩ := s.advance_exact (Scalar.larger 0 (now - t))
    dsimp only
    rw [moved]
    refine ⟨rfl, ⟨connected, steady, velocity⟩, rfl, fun target => ?_⟩
    change wrap (target - wrap _) = _
    rw [wrap_sub_wrap, velocity, steady, add_zero, sub_add_eq_sub_sub]

def rateOf : Command K → K
  | .velocity v => v.angular
  | .posture _ => 0

theorem send_spinning {s : Simulator K} {rate : K} (spinning : s.Spinning rate) (c : Command K)
    (onSpot : c = .stop ∨ ∃ r, c = .velocity ⟨0, 0, r⟩) (now : Readings K) :
    ∃ p, (s.send c now).result = .ok (some p) ∧ p.yaw = (s.send c now).state.yaw ∧
      (s.send c now).state.Spinning (rateOf c) ∧
      (s.send c now).state.lastTime = some now.moved ∧
      ∀ target : K, wrap (target - (s.send c now).state.yaw) =
        wrap (target - s.yaw - rate * s.elapsed now.moved) := by
  obtain ⟨moved, ⟨connected, steady, velocity⟩, last, yaw⟩ :=
    integrate_spinning spinning now.moved
  have parts := Outcome.andThen_after_ok moved fun s _ =>
    (Outcome.ok (s.apply c) (some ((s.apply c).pose now.published)) [noteOf c] :
      Outcome K (Simulator K) (Option (Pose K)))
  unfold send
  rw [if_pos spinning.connected, parts.1, parts.2]
  rcases onSpot with rfl | ⟨r, rfl⟩
  · exact ⟨_, rfl, rfl, ⟨connected, steady, rfl⟩, last, yaw⟩
  · exact ⟨_, rfl, rfl, ⟨connected, steady, rfl⟩, last, yaw⟩

end Simulator

namespace Bench

/-- A bench on which nothing is rehearsed to fail and the newest pose has been heard. -/
structure Attuned (b : Bench K) (rate : K) : Prop where
  spinning : b.robot.Spinning rate
  heard : 0 < b.rig.subscriptions
  calm : b.rig.hazards.sends = []
  seen : ∃ p, b.supervisor.sampler.slot.value = some p ∧ p.yaw = b.robot.yaw

theorem send_attuned {b : Bench K} {rate : K} (attuned : b.Attuned rate) (c : Command K)
    (onSpot : c = .stop ∨ ∃ r, c = .velocity ⟨0, 0, r⟩) (now : Simulator.Readings K) :
    (b.send c now).2.1 = .ok ∧
      (b.send c now).1.Attuned (Simulator.rateOf c) ∧
      (∃ sampler, (b.send c now).1.supervisor = { b.supervisor with sampler }) ∧
      (b.send c now).1.robot.lastTime = some now.moved ∧
      ∀ target : K, wrap (target - (b.send c now).1.robot.yaw) =
        wrap (target - b.robot.yaw - rate * b.robot.elapsed now.moved) := by
  obtain ⟨p, taken, published, spinning, last, yaw⟩ :=
    Simulator.send_spinning attuned.spinning c onSpot now
  have answered : ∃ notes, b.rig.send b.supervisor.sampler c now =
      ⟨{ b.rig with sendCalls := b.rig.sendCalls + 1, simulator := (b.robot.send c now).state },
        (Sampler.updateTimes p b.rig.subscriptions b.supervisor.sampler).1, .ok, notes⟩ := by
    change (b.rig.simulator.send c now).result = .ok (some p) at taken
    unfold Rig.send
    dsimp only
    rw [if_neg (by simp [attuned.calm]), Rig.deliver]
    dsimp only
    rw [taken]
    exact ⟨_, rfl⟩
  obtain ⟨notes, answered⟩ := answered
  have heard := Sampler.updateTimes_slot p attuned.heard b.supervisor.sampler
  unfold send take
  rw [answered]
  exact ⟨rfl, ⟨spinning, attuned.heard, attuned.calm, p, heard, published⟩, ⟨_, rfl⟩, last, yaw⟩

theorem deliver_attuned {b : Bench K} {rate : K} (attuned : b.Attuned rate) (c : Command K)
    (onSpot : c = .stop ∨ ∃ r, c = .velocity ⟨0, 0, r⟩) (now : Simulator.Readings K) :
    (b.deliver c now).result = .ok () ∧
      (b.deliver c now).state.Attuned (Simulator.rateOf c) ∧
      (∃ sampler latched lastCommand, (b.deliver c now).state.supervisor =
        { b.supervisor with sampler, latched, lastCommand }) ∧
      (b.deliver c now).state.robot.lastTime = some now.moved ∧
      ∀ target : K, wrap (target - (b.deliver c now).state.robot.yaw) =
        wrap (target - b.robot.yaw - rate * b.robot.elapsed now.moved) := by
  have wired : b.supervisor.wire c = ({ b.supervisor with latched := none }, true) := by
    rcases onSpot with rfl | ⟨r, rfl⟩ <;> rfl
  have again : { b with supervisor := { b.supervisor with latched := none } }.Attuned rate :=
    ⟨attuned.spinning, attuned.heard, attuned.calm, attuned.seen⟩
  obtain ⟨ok, after, ⟨sampler, same⟩, last, yaw⟩ := send_attuned again c onSpot now
  unfold deliver
  rw [wired]
  dsimp only
  rw [if_pos rfl]
  generalize ({ b with supervisor := { b.supervisor with latched := none } }.send c now) = answer
    at ok after same last yaw
  obtain ⟨b', reply, notes⟩ := answer
  cases ok
  refine ⟨rfl, ⟨after.spinning, after.heard, after.calm, after.seen⟩, ?_, last, yaw⟩
  exact ⟨sampler, none, some c, by
    change { b'.supervisor with lastCommand := some c } = _
    rw [same]⟩

/-- A bench whose supervisor has one turn left to run, while its robot turns at the given rate. -/
structure Turning (b : Bench K) (target rate : K) : Prop where
  attuned : b.Attuned rate
  working : b.supervisor.status ≠ .failsafe
  mapped : b.supervisor.dispatch.breakdowns = []
  mode : b.supervisor.currentMode = .autonomous
  only : b.supervisor.runner.OnlyTurn target

theorem tick_sends {b : Bench K} {target rate : K} (turning : b.Turning target rate)
    {c : Command K} (onSpot : c = .stop ∨ ∃ r, c = .velocity ⟨0, 0, r⟩) {t : Instants K}
    {r : Runner K} (now : Simulator.Readings K)
    (given : (b.supervisor.runner.tickAt t b.supervisor.sampler.slot.value).result = .ok (some c))
    (left : (b.supervisor.runner.tickAt t b.supervisor.sampler.slot.value).state = r) :
    (b.tickAt t now).result = .ok c ∧
      (b.tickAt t now).state.Attuned (Simulator.rateOf c) ∧
      (∃ dispatch sampler mode latched lastCommand ticks, (b.tickAt t now).state.supervisor =
          { b.supervisor with runner := r, dispatch, sampler, mode, latched, lastCommand, ticks } ∧
        dispatch.breakdowns = []) ∧
      (r.isRunning = true → (b.tickAt t now).state.supervisor.currentMode = .autonomous) ∧
      (b.tickAt t now).state.robot.lastTime = some now.moved ∧
      ∀ heading : K, wrap (heading - (b.tickAt t now).state.robot.yaw) =
        wrap (heading - b.robot.yaw - rate * b.robot.elapsed now.moved) := by
  obtain ⟨attuned, working, mapped, mode, _⟩ := turning
  obtain ⟨chosen, choosing⟩ := Supervisor.choose_planned working mapped mode given
  rw [left] at choosing
  have still : (b.withSupervisor (b.supervisor.choose t)).state.Attuned rate := by
    change ({ b with supervisor := (b.supervisor.choose t).state } : Bench K).Attuned rate
    rw [choosing]
    exact ⟨attuned.spinning, attuned.heard, attuned.calm, attuned.seen⟩
  obtain ⟨delivered, after, ⟨sampler, latched, lastCommand, same⟩, last, yaw⟩ :=
    deliver_attuned still c onSpot now
  have first : (b.withSupervisor (b.supervisor.choose t)).result = .ok ⟨.autonomous, c⟩ := chosen
  have parts := Outcome.andThen_after_ok first fun b choice =>
    (b.deliver choice.command now).andThen fun b _ =>
      (.ok { b with supervisor := (b.supervisor.settle choice.mode).1 } choice.command
        (b.supervisor.settle choice.mode).2 : Outcome K (Bench K) (Command K))
  have rest := Outcome.andThen_after_ok delivered fun b _ =>
    (.ok { b with supervisor := (b.supervisor.settle .autonomous).1 } c
      (b.supervisor.settle .autonomous).2 : Outcome K (Bench K) (Command K))
  have result : (b.tickAt t now).result = .ok c := parts.2.trans rest.2
  have state := parts.1.trans rest.1
  change (b.tickAt t now).state = _ at state
  have moved : (b.withSupervisor (b.supervisor.choose t)).state.robot = b.robot := rfl
  rw [moved] at yaw
  have chose : (b.withSupervisor (b.supervisor.choose t)).state.supervisor =
      (b.supervisor.choose t).state := rfl
  rw [chose, choosing] at same
  generalize ((b.withSupervisor (b.supervisor.choose t)).state.deliver c now).state = sent
    at after last yaw same state
  obtain ⟨settled, settling⟩ := sent.supervisor.settle_only .autonomous
  rw [state]
  refine ⟨result, ?_, ?_, ?_, last, yaw⟩
  · refine ⟨after.spinning, after.heard, after.calm, ?_⟩
    change ∃ p, (sent.supervisor.settle .autonomous).1.sampler.slot.value = some p ∧ _
    rw [settling]
    exact after.seen
  · refine ⟨{ b.supervisor.dispatch with calls := b.supervisor.dispatch.calls + 1 }, sampler,
      settled, latched, lastCommand, b.supervisor.ticks + 1, ?_, mapped⟩
    change (sent.supervisor.settle .autonomous).1 = _
    rw [settling, same]
  · intro running
    have going : sent.supervisor.runner.isRunning = true := by rw [same]; exact running
    change (sent.supervisor.settle .autonomous).1.currentMode = _
    rw [(Supervisor.settle_while_running going .autonomous).1, same]
    exact mode

theorem tick_turning {b : Bench K} {target rate : K} (turning : b.Turning target rate) (now : K) :
    (∀ heading : K, wrap (heading - (b.tick now).state.robot.yaw) =
        wrap (heading - b.robot.yaw - rate * b.robot.elapsed now)) ∧
      (Angle.inWindow b.supervisor.runner.turn.tolerance (wrap (target - b.robot.yaw)) = true →
        (b.tick now).result = .ok .stop ∧
          (b.tick now).state.supervisor.runner.phase = .complete) ∧
      (Angle.inWindow b.supervisor.runner.turn.tolerance (wrap (target - b.robot.yaw)) = false →
        (b.tick now).result =
            .ok (.velocity ⟨0, 0, b.supervisor.runner.turn.rate (wrap (target - b.robot.yaw))⟩) ∧
          (b.tick now).state.Turning target
            (b.supervisor.runner.turn.rate (wrap (target - b.robot.yaw))) ∧
          (b.tick now).state.robot.lastTime = some now ∧
          (b.tick now).state.supervisor.runner =
            b.supervisor.runner.facing (wrap target)) := by
  unfold tick
  obtain ⟨p, slot, seen⟩ := turning.attuned.seen
  obtain ⟨arrives, turns⟩ := Runner.tickAt_onlyTurn turning.only (.frozen now) p
  rw [seen, ← slot] at arrives turns
  cases window : Angle.inWindow b.supervisor.runner.turn.tolerance
      (wrap (target - b.robot.yaw)) with
  | true =>
    obtain ⟨given, complete⟩ := arrives window
    obtain ⟨result, _, ⟨_, _, _, _, _, _, same, _⟩, _, _, yaw⟩ :=
      tick_sends turning (.inl rfl) (.frozen now) given rfl
    refine ⟨yaw, fun _ => ⟨result, ?_⟩, fun outside => absurd outside (by decide)⟩
    rw [same]
    exact complete
  | false =>
    obtain ⟨given, left⟩ := turns window
    obtain ⟨result, attuned, ⟨_, _, _, _, _, _, same, mapped⟩, mode, last, yaw⟩ :=
      tick_sends turning (.inr ⟨_, rfl⟩) (.frozen now) given left
    have running : (b.supervisor.runner.facing (wrap target)).isRunning = true := by
      change b.supervisor.runner.isRunning = true
      rw [Runner.isRunning, turning.only.phase]
      rfl
    refine ⟨yaw, fun inside => absurd inside (by decide),
      fun _ => ⟨result, ⟨attuned, ?_, ?_, mode running, ?_⟩, last, ?_⟩⟩
    all_goals rw [same]
    · exact turning.working
    · exact mapped
    · exact Runner.facing_onlyTurn turning.only

/-- Of so many ticks and one more, a period apart, each turns at the one rate but the last, which
stops. The plan is then complete, and the robot is that close to the target. -/
structure Arrives (b : Bench K) (period now target rate reach : K) (k : ℕ) : Prop where
  commands : (Outcome.repeated (fun now b => b.tick now) period (k + 1) now b).2.result =
    .ok (List.replicate k (.velocity ⟨0, 0, rate⟩) ++ [.stop])
  complete : (Outcome.repeated (fun now b => b.tick now) period (k + 1) now
    b).2.state.supervisor.runner.phase = .complete
  close : ∃ e, Angle.error (Outcome.repeated (fun now b => b.tick now) period (k + 1) now
    b).2.state.robot.yaw target = some e ∧ |e| ≤ reach

variable {b : Bench K} {period now target rate reach : K}

theorem arrives_now (stops : (b.tick now).result = .ok .stop)
    (complete : (b.tick now).state.supervisor.runner.phase = .complete)
    (close : |wrap (target - (b.tick now).state.robot.yaw)| ≤ reach) :
    b.Arrives period now target rate reach 0 := by
  obtain ⟨state, result⟩ := Outcome.repeated_after_ok (fun now (b : Bench K) => b.tick now) stops
    period 0
  refine ⟨result, by rw [state]; exact complete, _, error_exact _ _, ?_⟩
  rw [state]
  exact close

omit [IsStrictOrderedRing K] in
theorem arrives_later {k : ℕ} (turns : (b.tick now).result = .ok (.velocity ⟨0, 0, rate⟩))
    (later : (b.tick now).state.Arrives period (now + period) target rate reach k) :
    b.Arrives period now target rate reach (k + 1) := by
  obtain ⟨commands, complete, close⟩ := later
  obtain ⟨state, result⟩ := Outcome.repeated_after_ok (fun now (b : Bench K) => b.tick now) turns
    period (k + 1)
  refine ⟨?_, by rw [state]; exact complete, by rw [state]; exact close⟩
  rw [result, commands]
  rfl

/-- The window is as wide as a step: whoever steps towards it from one side lands in it or stays on
that side. -/
theorem step_lands {tolerance step u side : K} (sided : side = 1 ∨ side = -1) (positive : 0 < step)
    (narrow : step ≤ 2 * tolerance) (ahead : 0 < u)
    (outside : Angle.inWindow tolerance (side * u) = false) :
    tolerance ≤ u ∧
      (Angle.inWindow tolerance (side * (u - step)) = false → 0 < u - step) := by
  simp only [← Bool.not_eq_true, inWindow_exact, not_and_or, not_le, not_lt] at outside ⊢
  rcases sided with rfl | rfl
  · have far : tolerance ≤ u := by rcases outside with low | high <;> linarith
    exact ⟨far, fun still => by rcases still with low | high <;> linarith⟩
  · have far : tolerance < u := by rcases outside with low | high <;> linarith
    exact ⟨far.le, fun still => by rcases still with low | high <;> linarith⟩

theorem outside_side {tolerance e : K} (wide : 0 < tolerance)
    (outside : Angle.inWindow tolerance e = false) :
    ∃ side u, (side = 1 ∨ side = -1) ∧ 0 < u ∧ e = side * u := by
  rcases lt_trichotomy e 0 with right | rfl | left
  · exact ⟨-1, -e, .inr rfl, by linarith, by ring⟩
  · rw [← Bool.not_eq_true, inWindow_exact] at outside
    exact absurd ⟨by linarith, wide⟩ outside
  · exact ⟨1, e, .inl rfl, left, (one_mul e).symm⟩

theorem wrap_self_after_step {tolerance step u side : K} (sided : side = 1 ∨ side = -1)
    (positive : 0 < step) (narrow : step ≤ 2 * tolerance)
    (short : tolerance < pi ∨ step < 2 * pi)
    (outside : Angle.inWindow tolerance (side * u) = false) (ahead : 0 < u)
    (bounds : -pi < side * u ∧ side * u ≤ pi) : wrap (side * (u - step)) = side * (u - step) := by
  have far := (step_lands sided positive narrow ahead outside).1
  obtain ⟨above, below⟩ := bounds
  rcases sided with rfl | rfl
  · refine wrap_self ?_ (by linarith)
    rcases short with window | turn <;> linarith
  · exact wrap_self (by linarith) (by linarith)

theorem short_unless_half_turn {tolerance step a : K} (narrow : step ≤ 2 * tolerance)
    (outside : Angle.inWindow tolerance (wrap a) = false)
    (ordinary : ¬(tolerance = pi ∧ step = 2 * pi ∧ wrap a = pi)) :
    tolerance < pi ∨ step < 2 * pi := by
  by_contra long
  obtain ⟨wide, whole⟩ := not_or.mp long
  rw [not_lt] at wide whole
  obtain ⟨above, below⟩ := wrap_mem a
  -- a window of half a turn or more leaves out nothing but half a turn
  have far : tolerance ≤ wrap a := by
    rw [← Bool.not_eq_true, inWindow_exact, not_and_or, not_le, not_lt] at outside
    rcases outside with low | high <;> linarith
  exact ordinary ⟨by linarith, by linarith, by linarith⟩

theorem rate_towards {t : PointTurn K} {u side : K} (sided : side = 1 ∨ side = -1)
    (ahead : 0 < u) : t.rate (side * u) = side * t.speed := by
  unfold PointTurn.rate
  rcases sided with rfl | rfl
  · rw [if_pos (by simpa using ahead), one_mul]
  · rw [if_neg (by simpa using ahead.le), neg_one_mul]

/-- A bench under way to the target from one side, as far away as the heading that was seen last. -/
structure Swinging (b : Bench K) (now target speed tolerance period side u : K) : Prop where
  turning : b.Turning target (side * speed)
  speed : b.supervisor.runner.turn.speed = speed
  tolerance : b.supervisor.runner.turn.tolerance = tolerance
  elapsed : b.robot.elapsed now = period
  away : wrap (target - b.robot.yaw) = side * u

variable {speed tolerance side u : K}

theorem swing_stops (swinging : b.Swinging now target speed tolerance period side u)
    (sided : side = 1 ∨ side = -1) (positive : 0 < speed * period)
    (inside : Angle.inWindow tolerance (side * u) = true) :
    b.Arrives period now target (side * speed) (tolerance + speed * period) 0 := by
  obtain ⟨turning, rfl, rfl, rfl, away⟩ := swinging
  obtain ⟨yaw, arrives, _⟩ := tick_turning turning now
  rw [away] at arrives
  obtain ⟨stops, complete⟩ := arrives inside
  refine arrives_now stops complete ?_
  -- while the robot takes the stop, it turns on by one step
  rw [yaw, ← wrap_wrap_sub, away]
  refine (abs_wrap_le _).trans (abs_le.mpr ?_)
  obtain ⟨above, below⟩ := (inWindow_exact _ _).mp inside
  rcases sided with rfl | rfl <;> constructor <;> linarith

theorem swing_goes_on (swinging : b.Swinging now target speed tolerance period side u)
    (sided : side = 1 ∨ side = -1) (forward : 0 < period) (positive : 0 < speed * period)
    (narrow : speed * period ≤ 2 * tolerance)
    (short : tolerance < pi ∨ speed * period < 2 * pi) (ahead : 0 < u)
    (outside : Angle.inWindow tolerance (side * u) = false) :
    (b.tick now).result = .ok (.velocity ⟨0, 0, side * speed⟩) ∧
      (b.tick now).state.Swinging (now + period) target speed tolerance period side
        (u - speed * period) := by
  obtain ⟨turning, rfl, rfl, elapsed, away⟩ := swinging
  obtain ⟨yaw, _, turns⟩ := tick_turning turning now
  rw [away] at turns
  obtain ⟨result, after, last, runner⟩ := turns outside
  rw [rate_towards sided ahead] at result after
  refine ⟨result, after, by rw [runner]; rfl, by rw [runner]; rfl, ?_, ?_⟩
  · exact Simulator.elapsed_after last forward
  · have bounds := wrap_mem (target - b.robot.yaw)
    rw [yaw, ← wrap_wrap_sub, away, elapsed, mul_assoc, ← mul_sub]
    rw [away] at bounds
    exact wrap_self_after_step sided positive narrow short outside ahead bounds

theorem swing_arrives (sided : side = 1 ∨ side = -1) (forward : 0 < period)
    (positive : 0 < speed * period) (narrow : speed * period ≤ 2 * tolerance)
    (short : tolerance < pi ∨ speed * period < 2 * pi) (m : ℕ)
    (swinging : b.Swinging now target speed tolerance period side u) (ahead : 0 < u)
    (outside : Angle.inWindow tolerance (side * u) = false) (near : u ≤ m * (speed * period)) :
    ∃ k ≤ m, b.Arrives period now target (side * speed) (tolerance + speed * period) k := by
  induction m generalizing b now u with
  | zero =>
    rw [Nat.cast_zero, zero_mul] at near
    exact absurd ahead near.not_gt
  | succ m ih =>
    obtain ⟨turns, after⟩ :=
      swing_goes_on swinging sided forward positive narrow short ahead outside
    cases window : Angle.inWindow tolerance (side * (u - speed * period)) with
    | true => exact ⟨1, by omega, arrives_later turns (swing_stops after sided positive window)⟩
    | false =>
      have still := (step_lands sided positive narrow ahead outside).2 window
      rw [Nat.cast_succ, add_one_mul] at near
      obtain ⟨k, few, arrives⟩ := ih after still window (by linarith)
      exact ⟨k + 1, by omega, arrives_later turns arrives⟩

/-- A connected robot at rest and without drift, whose newest pose has been heard by a supervisor
that is not in failsafe and runs no plan. -/
structure Poised (b : Bench K) : Prop where
  connected : b.robot.connected = true
  resting : b.robot.velocity = .zero
  steady : b.robot.drift = 0
  heard : 0 < b.rig.subscriptions
  calm : b.rig.hazards.sends = []
  seen : ∃ p, b.supervisor.sampler.slot.value = some p ∧ p.yaw = b.robot.yaw
  working : b.supervisor.status ≠ .failsafe
  mapped : b.supervisor.dispatch.breakdowns = []
  free : b.supervisor.runner.isRunning = false

theorem start_turning (poised : b.Poised) (target : K) (heading : Option K) :
    (b.startPlan [.segment (.turn target)] heading).result = .ok () ∧
      (b.startPlan [.segment (.turn target)] heading).state.Turning target 0 ∧
      (b.startPlan [.segment (.turn target)] heading).state.robot = b.robot ∧
      (b.startPlan [.segment (.turn target)] heading).state.supervisor.runner.turn =
        b.supervisor.runner.turn := by
  obtain ⟨started, only, turn⟩ := Runner.start_onlyTurn poised.free target heading
  obtain ⟨state, result⟩ := Supervisor.startPlan_succeeds started
  have selected : (b.supervisor.startPlan [.segment (.turn target)] heading).state =
      { b.supervisor with
        runner := (b.supervisor.runner.start [.segment (.turn target)] heading).state
        mode := ⟨.autonomous⟩ } := by
    rw [state]
    rcases Supervisor.setMode_cases _ .autonomous with ⟨eq, _⟩ | ⟨_, _, other⟩
    · exact eq
    · exact absurd rfl other
  refine ⟨result, ?_, rfl, ?_⟩
  · refine ⟨⟨⟨poised.connected, poised.steady, poised.resting⟩, poised.heard, poised.calm, ?_⟩,
      ?_, ?_, ?_, ?_⟩
    all_goals
      simp only [startPlan, withSupervisor, Outcome.within_state]
      rw [selected]
    · exact poised.seen
    · exact poised.working
    · exact poised.mapped
    · rfl
    · exact only
  · change (b.supervisor.startPlan [.segment (.turn target)] heading).state.runner.turn = _
    rw [selected]
    exact turn

/-- A point turn converges: each tick turns at the one rate until the last, which stops within a
step and the tolerance of the target. The one turn that does not is half a turn in steps of a whole
turn, with half a turn of tolerance. -/
theorem point_turn_converges (b : Bench K) (poised : b.Poised) (speed tolerance : K)
    (tuned : b.supervisor.runner.turn.speed = speed ∧
      b.supervisor.runner.turn.tolerance = tolerance)
    (period : K) (fast : 0 < speed) (wide : 0 < tolerance) (forward : 0 < period)
    (narrow : speed * period ≤ 2 * tolerance) (target : K) (heading : Option K) (now : K)
    (ordinary : ¬(tolerance = pi ∧ speed * period = 2 * pi ∧
      Angle.error b.robot.yaw target = some pi)) :
    (b.startPlan [.segment (.turn target)] heading).result = .ok () ∧
      ∃ k ≤ ⌈pi / (speed * period)⌉₊ + 1, ∃ rate, (rate = speed ∨ rate = -speed) ∧
        (b.startPlan [.segment (.turn target)] heading).state.Arrives period now target rate
          (tolerance + speed * period) k := by
  obtain ⟨started, turning, robot, turn⟩ := start_turning poised target heading
  refine ⟨started, ?_⟩
  generalize (b.startPlan [.segment (.turn target)] heading).state = c at turning robot turn ⊢
  rw [error_exact, ← robot, Option.some_inj] at ordinary
  rw [← turn] at tuned
  obtain ⟨rfl, rfl⟩ := tuned
  have positive := mul_pos fast forward
  obtain ⟨yaw, arrives, turns⟩ := tick_turning turning now
  simp only [zero_mul, sub_zero] at yaw
  cases window : Angle.inWindow c.supervisor.runner.turn.tolerance
      (wrap (target - c.robot.yaw)) with
  | true =>
    obtain ⟨stops, complete⟩ := arrives window
    obtain ⟨above, below⟩ := (inWindow_exact _ _).mp window
    refine ⟨0, Nat.zero_le _, _, .inl rfl, arrives_now stops complete ?_⟩
    rw [yaw]
    exact abs_le.mpr ⟨by linarith, by linarith⟩
  | false =>
    obtain ⟨side, u, sided, ahead, away⟩ := outside_side wide window
    have short := short_unless_half_turn narrow window ordinary
    have few : u ≤ ⌈pi / (c.supervisor.runner.turn.speed * period)⌉₊ *
        (c.supervisor.runner.turn.speed * period) := by
      refine le_trans ?_ ((div_le_iff₀ positive).mp (Nat.le_ceil _))
      obtain ⟨above, below⟩ := wrap_mem (target - c.robot.yaw)
      rw [away] at above below
      rcases sided with rfl | rfl <;> linarith
    obtain ⟨result, after, last, runner⟩ := turns window
    rw [away] at result after window
    rw [rate_towards sided ahead] at result after
    have swinging : (c.tick now).state.Swinging (now + period) target
        c.supervisor.runner.turn.speed c.supervisor.runner.turn.tolerance period side u :=
      ⟨after, by rw [runner]; rfl, by rw [runner]; rfl, Simulator.elapsed_after last forward,
        (yaw target).trans away⟩
    obtain ⟨k, within, later⟩ :=
      swing_arrives sided forward positive narrow short _ swinging ahead window few
    refine ⟨k + 1, by omega, _, ?_, arrives_later result later⟩
    rcases sided with rfl | rfl
    · exact .inl (one_mul _)
    · exact .inr (neg_one_mul _)

def facingZero (speed tolerance : K) : Bench K where
  supervisor := {
    timing := ⟨1, 1, 1, 0, 1, none⟩, dispatch := ⟨⟨1, 1, 1, 1⟩, [], 0⟩
    runner := {
      gains := ⟨speed, tolerance, 1, 1, 1, 0⟩, source := .elapsed, turn := .ofRates speed tolerance
      phase := .idle, plan := [], completed := 0, stopPending := false, pauseUntil := none
      active := false, heading := none, travelStart := 0, travelOrigin := (0, 0) }
    sampler := ⟨⟨some ⟨0, 0, 0, 0, 0⟩⟩, 1⟩, status := .active, running := true, activated := true
    mode := ⟨.idle⟩, lastCommand := none, latched := none, ticks := 0, listeners := [], told := [] }
  rig := {
    simulator := {
      connected := true, x := 0, y := 0, z := 0, yaw := 0, drift := 0, publishOnConnect := true
      velocity := .zero, posture := none, lastTime := some 0, history := .empty 0
      commandCount := 0 }
    hazards := .none, sendCalls := 0, subscriptions := 1 }

omit [IsStrictOrderedRing K] in
theorem facingZero_poised (speed tolerance : K) : (facingZero speed tolerance).Poised :=
  ⟨rfl, rfl, rfl, Nat.one_pos, rfl, ⟨_, rfl, rfl⟩, nofun, rfl, rfl⟩

abbrev halfTurns : Circular ℚ := ⟨1, one_pos, fun _ _ => 0, fun _ => 0, fun _ => 1⟩

theorem quarter_turn_converges :
    letI := halfTurns
    ∃ k ≤ 11, ∃ rate, (rate = 1 ∨ rate = -1) ∧
      ((facingZero (1 : ℚ) (1 / 20)).startPlan [.segment (.turn (1 / 2))] none).state.Arrives
        (1 / 10) 0 (1 / 2) rate (1 / 20 + 1 * (1 / 10)) k := by
  let circular := halfTurns
  have half : (pi : ℚ) = 1 := rfl
  have ordinary : ¬((1 / 20 : ℚ) = pi ∧ (1 : ℚ) * (1 / 10) = 2 * pi ∧
      Angle.error (facingZero (1 : ℚ) (1 / 20)).robot.yaw (1 / 2) = some pi) := by
    rw [half]
    norm_num
  obtain ⟨_, k, few, arrives⟩ := point_turn_converges (facingZero 1 (1 / 20))
    (facingZero_poised 1 (1 / 20)) 1 (1 / 20) ⟨rfl, rfl⟩ (1 / 10) (by norm_num) (by norm_num)
    (by norm_num) (by norm_num) (1 / 2) none 0 ordinary
  have ticks : ⌈(pi : ℚ) / (1 * (1 / 10))⌉₊ = 10 := by
    rw [half]
    norm_num
  rw [ticks] at few
  exact ⟨k, few, arrives⟩

theorem whole_turn_leads_nowhere (now : K) (full : speed * period = 2 * pi) (forward : 0 < period)
    (tuned : b.supervisor.runner.turn.speed = speed ∧ b.supervisor.runner.turn.tolerance = pi)
    (turning : b.Turning target rate) (away : wrap (target - b.robot.yaw) = pi)
    (whole : ∃ n : ℤ, rate * b.robot.elapsed now = n * (2 * pi)) (n : ℕ) :
    (Outcome.repeated (fun now b => b.tick now) period n now b).2.result =
        .ok (List.replicate n (.velocity ⟨0, 0, speed⟩)) ∧
      (Outcome.repeated (fun now b => b.tick now) period n now
        b).2.state.supervisor.runner.phase = .turning := by
  induction n generalizing b now rate with
  | zero => exact ⟨rfl, turning.only.phase⟩
  | succ n ih =>
    obtain ⟨rfl, window⟩ := tuned
    obtain ⟨m, whole⟩ := whole
    obtain ⟨yaw, _, turns⟩ := tick_turning turning now
    have outside : Angle.inWindow (pi : K) pi = false := by
      rw [← Bool.not_eq_true, inWindow_exact]
      exact fun inside => lt_irrefl _ inside.2
    have left : b.supervisor.runner.turn.rate (pi : K) = b.supervisor.runner.turn.speed :=
      if_pos ((lt_exact _ _).mpr pi_pos)
    rw [away, window, left] at turns
    obtain ⟨result, after, last, runner⟩ := turns outside
    have again : wrap (target - (b.tick now).state.robot.yaw) = pi := by
      rw [yaw, ← wrap_wrap_sub, away, whole]
      refine wrap_eq (by linarith [pi_pos (K := K)]) le_rfl ⟨-m, ?_⟩
      push_cast
      ring
    obtain ⟨commands, phase⟩ := ih (now + period) (by rw [runner]; exact ⟨rfl, window⟩) after again
      ⟨1, by rw [Simulator.elapsed_after last forward, full, Int.cast_one, one_mul]⟩
    have more := Outcome.repeated_after_ok (fun now (b : Bench K) => b.tick now) result period n
    rw [more.1, more.2, commands]
    exact ⟨rfl, phase⟩

/-- Half a turn, with half a turn of tolerance, in steps of a whole turn: no tick completes it. -/
theorem half_turn_in_whole_turns_never_ends :
    letI := halfTurns
    let b := facingZero (2 : ℚ) 1
    b.Poised ∧ (b.supervisor.runner.turn.speed = 2 ∧ b.supervisor.runner.turn.tolerance = 1) ∧
      (2 : ℚ) * 1 ≤ 2 * 1 ∧ (b.startPlan [.segment (.turn 1)] none).result = .ok () ∧
      ∀ n, (Outcome.repeated (fun now b => b.tick now) 1 n 0
        (b.startPlan [.segment (.turn 1)] none).state).2.state.supervisor.runner.phase ≠
          .complete := by
  let circular := halfTurns
  obtain ⟨started, turning, robot, turn⟩ := start_turning (facingZero_poised (2 : ℚ) 1) 1 none
  refine ⟨facingZero_poised 2 1, ⟨rfl, rfl⟩, le_rfl, started, fun n => ?_⟩
  have away : wrap ((1 : ℚ) - 0) = pi := by
    rw [sub_zero]
    exact wrap_self (by change (-1 : ℚ) < 1; norm_num) le_rfl
  obtain ⟨_, phase⟩ := whole_turn_leads_nowhere 0 (by rfl) one_pos
    (by rw [turn]; exact ⟨rfl, rfl⟩) turning (by rw [robot]; exact away) ⟨0, by simp⟩ n
  rw [phase]
  nofun

end Bench

end Quadruped
