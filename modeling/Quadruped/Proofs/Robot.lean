import Quadruped.Bench
import Quadruped.Number.Double
import Quadruped.Proofs.Outcome

/-!
How a simulated robot answers when nothing is rehearsed to fail: it connects and disconnects, and it
takes every command, unless its heading has left the range of numbers.
-/
namespace Quadruped

variable {R : Type}

namespace Rig

theorem deliver_rig (r : Rig R) (sampler : Sampler R)
    (o : Outcome R (Simulator R) (Option (Pose R))) :
    (r.deliver sampler o).rig = { r with simulator := o.state } := by
  unfold deliver
  dsimp only
  split <;> rfl

theorem deliver_raised {r : Rig R} {sampler : Sampler R}
    {o : Outcome R (Simulator R) (Option (Pose R))} {why : Fault R}
    (failed : o.result = .error why) : (r.deliver sampler o).reply = .raised why := by
  unfold deliver
  rw [failed]

theorem deliver_ok {r : Rig R} {sampler : Sampler R}
    {o : Outcome R (Simulator R) (Option (Pose R))} {p : Option (Pose R)}
    (succeeded : o.result = .ok p) : (r.deliver sampler o).reply = .ok := by
  unfold deliver
  rw [succeeded]
  cases p <;> rfl

end Rig

namespace Bench

def robot (b : Bench R) : Simulator R := b.rig.simulator

theorem subscribe_robot (b : Bench R) : b.subscribe.robot = b.robot := by
  unfold subscribe Rig.subscribe
  split <;> rfl

end Bench

variable [Scalar R]

namespace Simulator

/-- Halted by a stop, which is the last command that the robot has recorded, if it records any. -/
structure Stopped (s : Simulator R) : Prop where
  halted : s.velocity = .zero
  posture : s.posture = some .stop
  recorded : 0 < s.history.size → s.lastCommand? = some .stop

structure AtRest (s : Simulator R) : Prop extends Stopped s where
  disconnected : s.connected = false

structure Untouched (s : Simulator R) : Prop where
  disconnected : s.connected = false
  untimed : s.lastTime = none

theorem create_untouched {setup : Setup R} {s : Simulator R} (made : create setup = .ok s) :
    s.Untouched := by
  unfold create at made
  split at made
  · cases made
  · split at made
    · cases made
    · cases made
      exact ⟨rfl, rfl⟩

def standard : Simulator Float where
  connected := false
  x := 0
  y := 0
  z := 0
  yaw := 0
  drift := 0
  publishOnConnect := true
  velocity := .zero
  posture := none
  lastTime := none
  history := .empty 1000
  commandCount := 0

theorem create_standard : create .standard = .ok standard := by
  have heading : Angle.normalize (Setup.standard : Setup Float).start.yaw = some 0 := by
    decide +kernel
  unfold create
  rw [heading]
  rfl

theorem apply_stop_stopped (s : Simulator R) : (s.apply .stop).Stopped :=
  ⟨rfl, rfl, fun room => History.last?_push (h := s.history) room .stop⟩

theorem Stopped.disconnect {s : Simulator R} (stopped : s.Stopped) : s.disconnect.state.AtRest :=
  ⟨⟨rfl, stopped.posture, stopped.recorded⟩, rfl⟩

theorem advance_only (s : Simulator R) (dt : R) :
    (∃ x y yaw, (s.advance dt).state = { s with x, y, yaw }) ∧
      ((s.advance dt).result = .ok () ∨ (s.advance dt).result = .error .domain) := by
  unfold advance
  dsimp only
  split
  · exact ⟨⟨_, _, s.yaw, rfl⟩, .inr rfl⟩
  · exact ⟨⟨_, _, _, rfl⟩, .inl rfl⟩

theorem integrate_only (s : Simulator R) (now : R) :
    (∃ x y yaw lastTime, (s.integrate now).state = { s with x, y, yaw, lastTime } ∧
        (s.lastTime.isSome = true → lastTime.isSome = true)) ∧
      ((s.integrate now).result = .ok () ∨ (s.integrate now).result = .error .domain) := by
  unfold integrate
  cases last : s.lastTime with
  | none => exact ⟨⟨s.x, s.y, s.yaw, some now, rfl, fun _ => rfl⟩, .inl rfl⟩
  | some t =>
    obtain ⟨⟨x, y, yaw, moved⟩, result⟩ := s.advance_only (Scalar.larger 0 (now - t))
    rcases result with ok | error
    · have parts := Outcome.andThen_after_ok ok
        fun s _ => (Outcome.ok { s with lastTime := some now } () [] : Outcome R (Simulator R) Unit)
      refine ⟨⟨x, y, yaw, some now, ?_, fun _ => rfl⟩, .inl parts.2⟩
      exact parts.1.trans (by rw [moved]; rfl)
    · have parts := Outcome.andThen_after_error error
        fun s _ => (Outcome.ok { s with lastTime := some now } () [] : Outcome R (Simulator R) Unit)
      refine ⟨⟨x, y, yaw, s.lastTime, ?_, fun timed => last ▸ timed⟩, .inr parts.2⟩
      exact parts.1.trans moved

theorem send_cases {s : Simulator R} (connected : s.connected = true) (c : Command R)
    (now : Readings R) :
    (s.send c now).state.connected = true ∧
      (s.lastTime.isSome = true → (s.send c now).state.lastTime.isSome = true) ∧
      ((∃ (t : Simulator R) (p : Pose R), (s.send c now).state = t.apply c ∧
          (s.send c now).result = .ok (some p)) ∨
        (s.send c now).result = .error .domain) := by
  obtain ⟨⟨x, y, yaw, lastTime, moved, timed⟩, result⟩ := s.integrate_only now.moved
  unfold send
  rw [if_pos connected]
  rcases result with ok | error
  · have parts := Outcome.andThen_after_ok ok fun s _ =>
      (Outcome.ok (s.apply c) (some ((s.apply c).pose now.published)) [noteOf c] :
        Outcome R (Simulator R) (Option (Pose R)))
    rw [parts.1, parts.2, moved]
    refine ⟨?_, fun before => ?_, .inl ⟨_, _, rfl, rfl⟩⟩
    · cases c <;> exact connected
    · cases c <;> exact timed before
  · have parts := Outcome.andThen_after_error error fun s _ =>
      (Outcome.ok (s.apply c) (some ((s.apply c).pose now.published)) [noteOf c] :
        Outcome R (Simulator R) (Option (Pose R)))
    rw [parts.1, parts.2, moved]
    exact ⟨connected, timed, .inr rfl⟩

theorem send_timed {s : Simulator R} (timed : s.lastTime.isSome = true) (c : Command R)
    (now : Readings R) : (s.send c now).state.lastTime.isSome = true := by
  cases connected : s.connected with
  | true => exact (send_cases connected c now).2.1 timed
  | false =>
    unfold send
    rw [if_neg (by simp [connected])]
    exact timed

theorem send_size (s : Simulator R) (c : Command R) (now : Readings R) :
    (s.send c now).state.history.size = s.history.size := by
  obtain ⟨⟨x, y, yaw, lastTime, moved, _⟩, _⟩ := s.integrate_only now.moved
  unfold send
  split
  · refine Outcome.andThen_keeps (fun t : Simulator R => t.history.size = s.history.size)
      (by rw [moved]) ?_
    intro _
    rw [moved]
    cases c <;> rfl
  · rfl

end Simulator

namespace Bench

theorem answer_size (b : Bench R) (now : Simulator.Readings R) (request : Request R) :
    (b.answer now request).1.robot.history.size = b.robot.history.size := by
  have subscribed : b.subscribe.robot.history.size = b.robot.history.size :=
    congrArg (·.history.size) b.subscribe_robot
  cases request with
  | connect interface =>
    simp only [answer, connect, take, robot, Rig.connect]
    split
    · rw [Rig.deliver_rig]
      exact subscribed
    · exact subscribed
    · exact subscribed
  | send c =>
    simp only [answer, send, take, robot, Rig.send]
    split
    · rfl
    · rw [Rig.deliver_rig]
      exact Simulator.send_size _ c now
  | disconnect =>
    simp only [answer, disconnect, take, robot, Rig.disconnect]
    split <;> rfl
  | sleep | finish => rfl

theorem connect_answer {b : Bench R} (calm : b.rig.hazards = .none) (interface : String)
    (now : Simulator.Readings R) :
    (b.answer now (.connect interface)).1.rig.hazards = .none ∧
      (b.answer now (.connect interface)).1.robot.connected = true := by
  have subscribed : b.subscribe.rig.hazards = .none := by
    simp [subscribe, Rig.subscribe, calm, Hazards.none]
  have answered : b.answer now (.connect interface) =
      b.subscribe.take (b.subscribe.rig.deliver b.subscribe.supervisor.sampler
        (b.subscribe.robot.connect interface now)) := by
    simp [answer, connect, Rig.connect, subscribed, Hazards.none, robot]
  have rig : (b.answer now (.connect interface)).1.rig =
      { b.subscribe.rig with simulator := (b.subscribe.robot.connect interface now).state } := by
    rw [answered]
    exact Rig.deliver_rig _ _ _
  rw [robot, rig]
  exact ⟨subscribed, rfl⟩

theorem disconnect_answer {b : Bench R} (calm : b.rig.hazards = .none)
    (now : Simulator.Readings R) :
    (b.answer now .disconnect).2.1 = .ok ∧
      (b.answer now .disconnect).1.rig =
        { b.rig with simulator := b.robot.disconnect.state } := by
  simp [answer, disconnect, take, Rig.disconnect, calm, Hazards.none, robot]

theorem send_answer {b : Bench R} (calm : b.rig.hazards = .none)
    (connected : b.robot.connected = true) (c : Command R) (now : Simulator.Readings R) :
    (b.answer now (.send c)).1.rig.hazards = .none ∧
      (b.answer now (.send c)).1.robot.connected = true ∧
      ((b.answer now (.send c)).2.1 = .ok ∧
          (∃ s : Simulator R, (b.answer now (.send c)).1.robot = s.apply c) ∨
        (b.answer now (.send c)).2.1 = .raised .domain) := by
  obtain ⟨stays, _, result⟩ := b.robot.send_cases connected c now
  have answered : b.answer now (.send c) =
      b.take ({ b.rig with sendCalls := b.rig.sendCalls + 1 }.deliver b.supervisor.sampler
        (b.robot.send c now)) := by
    simp [answer, send, Rig.send, calm, Hazards.none, robot]
  have rig : (b.answer now (.send c)).1.rig =
      { b.rig with
        sendCalls := b.rig.sendCalls + 1
        simulator := (b.robot.send c now).state } := by
    rw [answered]
    exact Rig.deliver_rig _ _ _
  refine ⟨by rw [rig]; exact calm, by rw [robot, rig]; exact stays, ?_⟩
  rcases result with ⟨s, p, state, ok⟩ | failed
  · refine .inl ⟨?_, s, ?_⟩
    · rw [answered]; exact Rig.deliver_ok ok
    · rw [robot, rig]; exact state
  · refine .inr ?_
    rw [answered]
    exact Rig.deliver_raised failed

theorem answer_timed {b : Bench R} (timed : b.robot.lastTime.isSome = true)
    (now : Simulator.Readings R) (request : Request R) :
    (b.answer now request).1.robot.lastTime.isSome = true := by
  cases request with
  | connect interface =>
    simp only [answer, connect, take, robot, Rig.connect]
    split
    · rw [Rig.deliver_rig]
      rfl
    · exact (congrArg (·.lastTime.isSome) b.subscribe_robot).trans timed
    · exact (congrArg (·.lastTime.isSome) b.subscribe_robot).trans timed
  | send c =>
    simp only [answer, send, take, robot, Rig.send]
    split
    · exact timed
    · rw [Rig.deliver_rig]
      exact Simulator.send_timed timed c now
  | disconnect =>
    simp only [answer, disconnect, take, robot, Rig.disconnect]
    split
    · exact timed
    · exact timed
  | sleep d => exact timed
  | finish e => exact timed

theorem answer_clocked {b : Bench R}
    (clocked : b.robot.connected = true → b.robot.lastTime.isSome = true)
    (now : Simulator.Readings R) (request : Request R)
    (connected : (b.answer now request).1.robot.connected = true) :
    (b.answer now request).1.robot.lastTime.isSome = true := by
  cases before : b.robot.connected with
  | true => exact answer_timed (clocked before) now request
  | false =>
    cases request with
    | connect interface =>
      simp only [answer, connect, take, robot, Rig.connect] at connected ⊢
      split at connected
      · rw [Rig.deliver_rig]
        rfl
      · exact absurd ((congrArg (·.connected) b.subscribe_robot).symm.trans connected)
          (by simp [before])
      · exact absurd ((congrArg (·.connected) b.subscribe_robot).symm.trans connected)
          (by simp [before])
    | send c =>
      have dropped : (b.answer now (.send c)).1.robot = b.robot := by
        simp only [answer, send, take, robot, Rig.send]
        split
        · rfl
        · rw [Rig.deliver_rig]
          unfold Simulator.send
          rw [if_neg (by simpa [robot] using before)]
          rfl
      rw [dropped, before] at connected
      cases connected
    | disconnect =>
      simp only [answer, disconnect, take, robot, Rig.disconnect] at connected
      split at connected
      · exact absurd connected (by simpa [robot] using before)
      · cases connected
    | sleep d => exact absurd connected (by simp [answer, before])
    | finish e => exact absurd connected (by simp [answer, before])

end Bench
end Quadruped
