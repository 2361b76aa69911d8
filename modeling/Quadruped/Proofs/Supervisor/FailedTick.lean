import Mathlib.Control.Monad.Basic
import Quadruped.Proofs.Supervisor.Latch

/-!
What a tick that fails leaves of the books of a supervisor: the ticks counted, the last command, the
mode, the status and the latch. One that fails before its send leaves all of them as they were. One
that fails at its send has set the latch already, as if its command had gone out.
-/
namespace Quadruped

variable {R : Type}

def Command.latch : Command R → Option Posture
  | .posture p => if p.latches then some p else none
  | .velocity _ => none

theorem Command.latch_of_free {c : Command R} (free : ¬ c.Latches) : c.latch = none := by
  cases c with
  | velocity v => rfl
  | posture p =>
    refine if_neg ?_
    intro latches
    exact free ⟨p, latches, rfl⟩

namespace Supervisor

/-- The books that a tick writes after its send, if at all. -/
structure SameBooks (before after : Supervisor R) : Prop where
  ticks : after.ticks = before.ticks
  lastCommand : after.lastCommand = before.lastCommand
  mode : after.mode = before.mode
  status : after.status = before.status

variable {s : Supervisor R} {c : Command R}

theorem wire_latch (s : Supervisor R) (c : Command R) :
    (s.wire c).1 = { s with latched := c.latch } := by
  cases c with
  | velocity v => rfl
  | posture p => cases latches : p.latches <;> simp [wire, Command.latch, latches]

theorem sent_latch (needed : (s.wire c).2 = true) :
    c.latch = s.latched ↔ ¬ c.Latches ∧ s.latched = none := by
  constructor
  · intro same
    have free : ¬ c.Latches := by
      rintro ⟨p, latches, rfl⟩
      simp only [Command.latch, latches, if_true] at same
      simp [wire, latches, ← same] at needed
    exact ⟨free, same.symm.trans (Command.latch_of_free free)⟩
  · rintro ⟨free, unlatched⟩
    rw [unlatched]
    exact Command.latch_of_free free

theorem wire_again (latches : c.Latches) (held : s.latched = c.latch) : (s.wire c).2 = false := by
  obtain ⟨p, latches, rfl⟩ := latches
  simp [wire, latches, held, Command.latch]

variable [Scalar R]

theorem choose_books (s : Supervisor R) (now : Instants R) :
    s.SameBooks (s.choose now).state ∧ (s.choose now).state.latched = s.latched := by
  obtain ⟨runner, dispatch, eq⟩ := s.choose_only now
  rw [eq]
  exact ⟨⟨rfl, rfl, rfl, rfl⟩, rfl⟩

end Supervisor

namespace Watch

variable [Scalar R] {w : Watch R}

theorem waiting_books {now : Instants R} {choice : Supervisor.Choice R}
    (waits : (w.step (.beginTick now)).underWay = w.underWay ++ [choice]) :
    w.supervisor.SameBooks (w.step (.beginTick now)).supervisor ∧
      (w.step (.beginTick now)).supervisor.latched = choice.command.latch ∧
      (choice.command.latch = w.supervisor.latched ↔
        ¬ choice.command.Latches ∧ w.supervisor.latched = none) := by
  change (w.beginTick now).underWay = _ at waits
  change w.supervisor.SameBooks (w.beginTick now).supervisor ∧
    (w.beginTick now).supervisor.latched = _ ∧ _
  obtain ⟨kept, latched⟩ := w.supervisor.choose_books now
  rcases w.beginTick_cases now with ⟨why, _, eq⟩ | ⟨other, _, ⟨needed, eq⟩ | ⟨_, eq⟩⟩
  · simp [eq] at waits
  · have same : other = choice := by simpa [eq] using waits
    subst same
    rw [eq, Supervisor.wire_latch]
    refine ⟨⟨kept.ticks, kept.lastCommand, kept.mode, kept.status⟩, rfl, ?_⟩
    rw [← latched]
    exact Supervisor.sent_latch needed
  · simp [eq] at waits

theorem failed_send_only (w : Watch R) (index : Nat) {reply : Reply R} (failed : reply ≠ .ok) :
    (w.step (.endTick index reply)).supervisor = w.supervisor := by
  simp only [step, endTick]
  split
  · exact absurd rfl failed
  · rfl

theorem beginTick_fails {now : Instants R} {why : Fault R}
    (failed : (w.supervisor.choose now).result = .error why) :
    w.step (.beginTick now) = { w with supervisor := (w.supervisor.choose now).state } := by
  simp [step, beginTick, failed]

theorem held_posture_stays (w : Watch R) {now : Instants R} {choice : Supervisor.Choice R}
    (chosen : (w.supervisor.choose now).result = .ok choice) (latches : choice.command.Latches)
    (held : w.supervisor.latched = choice.command.latch) :
    (w.step (.beginTick now)).underWay = w.underWay := by
  have kept := (w.supervisor.choose_books now).2
  have silent := Supervisor.wire_again latches (kept.trans held)
  simp [step, beginTick, chosen, silent]

/-- A tick that fails keeps the books. The latch is kept too where nothing could be chosen; where the
send fails it is kept only if neither the command latches nor the latch held anything. So a posture
that latches and was not taken is not sent again by the next tick that chooses it. -/
theorem failed_tick_keeps_all_but_latch (w : Watch R) (now : Instants R) :
    (∀ why, (w.supervisor.choose now).result = .error why →
      let done := (w.step (.beginTick now)).supervisor
      w.supervisor.SameBooks done ∧ done.latched = w.supervisor.latched) ∧
    (∀ choice reply, (w.step (.beginTick now)).underWay = w.underWay ++ [choice] → reply ≠ .ok →
      let done := (w.step (.beginTick now)).step (.endTick w.underWay.length reply)
      w.supervisor.SameBooks done.supervisor ∧
        (done.supervisor.latched = w.supervisor.latched ↔
          ¬ choice.command.Latches ∧ w.supervisor.latched = none) ∧
        (choice.command.Latches → ∀ later next,
          (done.supervisor.choose later).result = .ok next → next.command = choice.command →
            (done.step (.beginTick later)).underWay = done.underWay)) := by
  constructor
  · intro why failed done
    change w.supervisor.SameBooks (w.step (.beginTick now)).supervisor ∧
      (w.step (.beginTick now)).supervisor.latched = _
    rw [beginTick_fails failed]
    exact w.supervisor.choose_books now
  · intro choice reply waits failed done
    obtain ⟨kept, latched, changed⟩ := waiting_books waits
    have same : done.supervisor = (w.step (.beginTick now)).supervisor :=
      failed_send_only _ _ failed
    rw [same]
    refine ⟨kept, ?_, ?_⟩
    · rw [latched]
      exact changed
    · intro latches later next chosen again
      rw [← same] at chosen latched
      apply held_posture_stays done chosen
      · rw [again]
        exact latches
      · rw [again]
        exact latched

theorem failed_ticks_keep_books :
    let sitting := (fresh .standard ⟨.standard, [3], 0⟩ .standard [.recorder]).after
      [.call (.setMode (.holding .sit)), .beginTick (.frozen 0), .endTick 0 .ok]
    let moving := sitting.step (.call (.setMode (.teleop .forward)))
    let refused := (moving.step (.beginTick (.frozen 1))).step
      (.endTick moving.underWay.length (.raised (.breakdown .send)))
    let failed := (refused.step (.beginTick (.frozen 2))).supervisor
    moving.supervisor.latched = some .sit ∧ moving.supervisor.SameBooks refused.supervisor ∧
      refused.supervisor.latched ≠ moving.supervisor.latched ∧
      refused.supervisor.SameBooks failed ∧ failed.latched = refused.supervisor.latched := by
  intro sitting moving refused failed
  have held : moving.supervisor.latched = some .sit := by decide +kernel
  have waits : (moving.step (.beginTick (.frozen 1))).underWay =
      moving.underWay ++ [⟨.teleop .forward, .velocity ⟨0.3, 0, 0⟩⟩] := by decide +kernel
  obtain ⟨kept, latch, _⟩ :=
    (failed_tick_keeps_all_but_latch moving (.frozen 1)).2 _ (.raised (.breakdown .send)) waits nofun
  have broken : (refused.supervisor.choose (.frozen 2)).result = .error (.breakdown .map) := by
    decide +kernel
  obtain ⟨kept_again, same⟩ := (failed_tick_keeps_all_but_latch refused (.frozen 2)).1 _ broken
  refine ⟨held, kept, ?_, kept_again, same⟩
  intro unchanged
  cases held.symm.trans (latch.mp unchanged).2

/-- The send of a posture that latches fails: the latch holds the posture all the same, and the next
tick, which chooses it again, does not send it. -/
theorem failed_sit_is_not_sent_again :
    let w := (fresh .standard ⟨.standard, [], 0⟩ .standard [.recorder]).after
      [.call (.setMode (.holding .sit))]
    let begun := w.step (.beginTick (.frozen 0))
    let done := begun.step (.endTick 0 (.raised (.breakdown .send)))
    begun.underWay = [⟨.holding .sit, .posture .sit⟩] ∧ w.supervisor.latched = none ∧
      done.supervisor.latched = some .sit ∧
      (done.supervisor.choose (.frozen 1)).result = .ok ⟨.holding .sit, .posture .sit⟩ ∧
      (done.step (.beginTick (.frozen 1))).underWay = [] := by
  decide +kernel

end Watch
end Quadruped
