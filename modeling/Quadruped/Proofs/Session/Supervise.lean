import Quadruped.Proofs.Robot
import Quadruped.Proofs.Supervisor.Turn
import Quadruped.Session.House

/-!
The supervisor's run at a simulated robot. Where the run stands tells how the robot stands: connected
from the first request to the cleanup, halted by the last stop, and disconnected after it.
-/
namespace Quadruped.House

open Schedule Run

def robot (h : House) : Simulator Float := h.bench.robot

/-- The cleanup reported that the robot did not take the last stop, because its heading had left the
range of numbers. -/
def Refused (h : House) : Prop := .note (.cleanupFailed .domain) ∈ h.lines

theorem note_mem_log {h : House} {notes : List (Note Float)} {n : Note Float} (member : n ∈ notes) :
    .note n ∈ (h.log notes).lines :=
  List.mem_append_left _ (List.mem_reverse.mpr (List.mem_map_of_mem member))

/-- How the robot stands where a run is that has yet to see the reply. -/
def Stands (h : House) (reply : Option (Reply Float)) : Run Float → Prop
  | .ready _ => h.robot.Untouched
  | .parking _ => h.robot.connected = true ∧
      (reply = some .ok ∧ h.robot.Stopped ∨ reply = some (.raised .domain))
  | .leaving _ => reply = some .ok ∧ h.robot.AtRest
  | .over _ => h.robot.Untouched ∨ h.supervisor.status = .stopped ∧ (h.robot.AtRest ∨ h.Refused)
  | _ => h.robot.connected = true

theorem stands_under_way {h : House} {reply : Option (Reply Float)} {run : Run Float}
    (under_way : run.UnderWay) : h.Stands reply run ↔ h.robot.connected = true := by
  cases run with
  | ready i => exact under_way.elim
  | parking e => exact under_way.elim
  | leaving e => exact under_way.elim
  | «over» e => exact under_way.elim
  | _ => exact Iff.rfl

variable {M : Type}

/-- A turn of the run: it leaves things as they have to stand, starts no task, and its task does not
end before the run is over. -/
inductive KeepsWatch : House × Job M × Next M → Prop where
  | waits {h : House} {run : Run Float} {reply : Option (Reply Float)} {next : Next M}
      (calm : h.bench.rig.hazards = .none) (stands : h.Stands reply run)
      (quiet : next = .proceed ∨ ∃ d, next = .sleep d) :
      KeepsWatch (h, .supervise run reply, next)
  | ends {h : House} {f : Ending Float} (e : Ending Float)
      (calm : h.bench.rig.hazards = .none) (stands : h.Stands none (.over f)) :
      KeepsWatch (h, .supervise (.over f) none, .finish e)

def carryOut (h : House) (now : Float) (p : Progress Float) : House × Job M × Next M :=
  let h := (h.withSupervisor p.supervisor).log p.notes
  match p.request with
  | .sleep d => (h, .supervise p.run none, .sleep d)
  | .finish e => (h, .supervise p.run none, .finish e)
  | request =>
    let (bench, answer, notes) := h.bench.answer now request
    ({ h with bench }.log notes, .supervise p.run (some answer), .proceed)

theorem supervise_eq (h : House) (now : Float) (run : Run Float) (reply : Reply Float) :
    (h.supervise now run reply : House × Job M × Next M) =
      h.carryOut now (run.resume (h.bench.moment now) h.supervisor reply) := rfl

variable {h : House} {now : Float} {p : Progress Float}

theorem sleep_keeps_watch {d : Float} (calm : h.bench.rig.hazards = .none)
    (connected : h.robot.connected = true) (under_way : p.run.UnderWay)
    (request : p.request = .sleep d) :
    KeepsWatch (h.carryOut now p : House × Job M × Next M) := by
  unfold carryOut
  rw [request]
  exact .waits calm ((stands_under_way under_way).mpr connected) (.inr ⟨d, rfl⟩)

theorem send_keeps_watch {c : Command Float} (calm : h.bench.rig.hazards = .none)
    (connected : h.robot.connected = true) (under_way : p.run.UnderWay)
    (request : p.request = .send c) :
    KeepsWatch (h.carryOut now p : House × Job M × Next M) := by
  unfold carryOut
  rw [request]
  obtain ⟨still_calm, stays, _⟩ :=
    Bench.send_answer (b := ((h.withSupervisor p.supervisor).log p.notes).bench) calm connected c now
  exact .waits still_calm ((stands_under_way under_way).mpr stays) (.inl rfl)

theorem park_keeps_watch {e : Ending Float} (calm : h.bench.rig.hazards = .none)
    (connected : h.robot.connected = true) (parks : p.run = .parking e)
    (request : p.request = .send .stop) :
    KeepsWatch (h.carryOut now p : House × Job M × Next M) := by
  unfold carryOut
  rw [request, parks]
  obtain ⟨still_calm, stays, answered⟩ :=
    Bench.send_answer (b := ((h.withSupervisor p.supervisor).log p.notes).bench) calm connected
      .stop now
  refine .waits still_calm ⟨stays, ?_⟩ (.inl rfl)
  rcases answered with ⟨ok, s, taken⟩ | raised
  · have stopped := s.apply_stop_stopped
    rw [← taken] at stopped
    exact .inl ⟨congrArg some ok, stopped⟩
  · exact .inr (congrArg some raised)

theorem connect_keeps_watch {i j : String} (calm : h.bench.rig.hazards = .none)
    (connects : p.run = .connecting i) (request : p.request = .connect j) :
    KeepsWatch (h.carryOut now p : House × Job M × Next M) := by
  unfold carryOut
  rw [request, connects]
  obtain ⟨still_calm, connected⟩ :=
    Bench.connect_answer (b := ((h.withSupervisor p.supervisor).log p.notes).bench) calm j now
  exact .waits still_calm connected (.inl rfl)

theorem leave_keeps_watch {e : Ending Float} (calm : h.bench.rig.hazards = .none)
    (stopped : h.robot.Stopped) (leaves : p.run = .leaving e)
    (request : p.request = .disconnect) :
    KeepsWatch (h.carryOut now p : House × Job M × Next M) := by
  unfold carryOut
  rw [request, leaves]
  obtain ⟨ok, rig⟩ :=
    Bench.disconnect_answer (b := ((h.withSupervisor p.supervisor).log p.notes).bench) calm now
  have rest := stopped.disconnect
  refine .waits ((congrArg Rig.hazards rig).trans calm) ⟨congrArg some ok, ?_⟩ (.inl rfl)
  exact (congrArg (fun r : Rig Float => r.simulator.AtRest) rig).mpr rest

theorem over_keeps_watch {e f : Ending Float} (calm : h.bench.rig.hazards = .none)
    (concluded : p.run = .over f) (request : p.request = .finish e)
    (stands : h.robot.Untouched ∨ p.supervisor.status = .stopped ∧
      (h.robot.AtRest ∨ ((h.withSupervisor p.supervisor).log p.notes).Refused)) :
    KeepsWatch (h.carryOut now p : House × Job M × Next M) := by
  unfold carryOut
  rw [request, concluded]
  exact .ends e calm stands

theorem supervise_keeps_watch {run : Run Float} {reply : Option (Reply Float)} (how : Wake)
    (calm : h.bench.rig.hazards = .none) (stands : h.Stands reply run) :
    KeepsWatch (h.supervise now run (reply.getD how.reply) : House × Job M × Next M) := by
  rw [supervise_eq]
  by_cases under_way : run.UnderWay
  · have connected := (stands_under_way under_way).mp stands
    rcases under_way_goes_on under_way (resume_turn (h.bench.moment now) h.supervisor run
      (reply.getD how.reply)) with ⟨stays, ⟨c, sends⟩ | ⟨d, sleeps⟩⟩ | ⟨s, e, notes, closes⟩
    · exact send_keeps_watch calm connected stays sends
    · exact sleep_keeps_watch calm connected stays sleeps
    · rw [closes]
      rcases windDown_cases (h.bench.moment now) s e with
        ⟨_, parks, request, _⟩ | ⟨disconnected, _⟩
      · exact park_keeps_watch calm connected parks request
      · cases connected.symm.trans disconnected
  · cases run with
    | ready i =>
      cases reply.getD how.reply with
      | ok => exact connect_keeps_watch calm rfl rfl
      | _ => exact over_keeps_watch calm rfl rfl (.inl stands)
    | parking e =>
      rcases stands.2 with ⟨rfl, stopped⟩ | rfl
      · exact leave_keeps_watch calm stopped rfl rfl
      · refine over_keeps_watch calm rfl rfl (.inr ⟨Supervisor.transition_status _ _ _, .inr ?_⟩)
        exact note_mem_log List.mem_cons_self
    | leaving e =>
      obtain ⟨rfl, rest⟩ := stands
      exact over_keeps_watch calm rfl rfl
        (.inr ⟨Supervisor.transition_status _ _ _, .inl rest⟩)
    | «over» e => exact over_keeps_watch calm rfl rfl (stands.imp id fun ended => ended)
    | _ => exact absurd trivial under_way

end Quadruped.House
