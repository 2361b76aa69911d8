import Quadruped.Proofs.Supervisor.Frame
import Quadruped.Session.Demo
import Quadruped.Session.Mission

/-!
What the programs leave to the supervisor's run. A program starts that run, once, at its opening; it
never commands the robot itself, sets no status, and takes back nothing that was written.
-/
namespace Quadruped

open Schedule

namespace House

/-- The robot and the status are untouched, and whatever was written is still there. -/
structure Spares (h k : House) : Prop where
  rig : k.bench.rig = h.bench.rig
  status : k.supervisor.status = h.supervisor.status
  lines : ∀ line ∈ h.lines, line ∈ k.lines

namespace Spares

theorem refl (h : House) : h.Spares h := ⟨rfl, rfl, fun _ => id⟩

theorem trans {h k l : House} (first : h.Spares k) (second : k.Spares l) : h.Spares l where
  rig := second.rig.trans first.rig
  status := second.status.trans first.status
  lines line := second.lines line ∘ first.lines line

end Spares

theorem write_spares (h : House) (lines : List (Line Float)) : h.Spares (h.write lines) :=
  ⟨rfl, rfl, fun _ => List.mem_append_right _⟩

theorem log_spares (h : House) (notes : List (Note Float)) : h.Spares (h.log notes) :=
  h.write_spares _

theorem print_spares (h : House) (text : String) : h.Spares (h.print text) := h.write_spares _

theorem stop_spares (h : House) : h.Spares h.stop := ⟨rfl, rfl, fun _ => id⟩

theorem withSupervisor_spares (h : House) {s : Supervisor Float}
    (status : s.status = h.supervisor.status) : h.Spares (h.withSupervisor s) :=
  ⟨rfl, status, fun _ => id⟩

theorem setMode_spares (h : House) (m : Mode) : h.Spares (h.setMode m) := by
  have kept : (h.supervisor.setMode m).1.status = h.supervisor.status := by
    obtain ⟨_, eq⟩ := h.supervisor.setMode_only m
    rw [eq]
  exact (h.withSupervisor_spares kept).trans (log_spares _ _)

theorem startPlan_spares (h : House) (items : List (PlanItem Float)) (heading : Option Float) :
    h.Spares (h.startPlan items heading).1 := by
  have kept : (h.supervisor.startPlan items heading).state.status = h.supervisor.status := by
    obtain ⟨_, _, eq⟩ := h.supervisor.startPlan_only items heading
    rw [eq]
  exact (h.withSupervisor_spares kept).trans (log_spares _ _)

end House

section
variable {R σ : Type}

theorem KeyReader.act_status (s : Supervisor R) (a : KeyAction) :
    (KeyReader.act s a).1.status = s.status := by
  cases a with
  | select m =>
    obtain ⟨_, eq⟩ := s.setMode_only m
    exact congrArg (·.status) eq
  | help => rfl
  | exit => rfl

variable [Equipment R σ]

theorem KeyReader.poll_status (r : KeyReader σ) (s : Supervisor R) :
    (r.poll s).supervisor.status = s.status := by
  unfold KeyReader.poll
  dsimp only
  split
  · rfl
  · rfl
  · unfold KeyReader.applyKey
    split
    · rfl
    · dsimp only
      split
      · exact act_status s _
      · exact act_status s _

theorem KeySession.turn_status (r : KeySession R σ) (s : Supervisor R) :
    (r.turn s).supervisor.status = s.status := by
  unfold KeySession.turn
  dsimp only
  split
  · rw [Progress.after]
    split
    · exact r.reader.poll_status s
    · exact r.reader.poll_status s
  · rfl

theorem KeySession.greet_status (r : KeySession R σ) (s : Supervisor R) :
    (r.greet s).supervisor.status = s.status := by
  unfold KeySession.greet
  dsimp only
  split
  · rfl
  · exact KeySession.turn_status _ s

theorem KeySession.resume_status (r : KeySession R σ) (s : Supervisor R) (reply : Reply R) :
    (r.resume s reply).supervisor.status = s.status := by
  unfold KeySession.resume
  split
  · rfl
  · rfl
  · exact r.turn_status s
  · unfold KeySession.begin
    dsimp only
    split
    · rfl
    · exact KeySession.greet_status _ s
  · rfl

end

theorem House.read_spares (h : House) (session : ReadingSession Float) (how : Wake) :
    h.Spares (h.read session how).1 :=
  (h.withSupervisor_spares (session.resume_status h.supervisor how.reply)).trans (write_spares _ _)

variable {M : Type}

structure Program.ModestTurn (fresh : M → Prop) (h : House) (m : M) (t : House × M × Next M) :
    Prop where
  spares : h.Spares t.1
  goes : ¬ fresh t.2.1
  starts : ∀ job, t.2.2 = .start job → fresh m ∧ ∃ i, job = .supervise (.ready i) none

/-- A program that starts the run of the supervisor while it is fresh, and is so no more. -/
def Program.Modest (program : Program M) (fresh : M → Prop) : Prop :=
  ∀ v h m how, Program.ModestTurn fresh h m (program v h m how)

structure Program.QuietTurn (fresh : M → Prop) (h : House) (t : House × M × Next M) : Prop where
  spares : h.Spares t.1
  goes : ¬ fresh t.2.1
  quiet : ∀ job, t.2.2 ≠ .start job

namespace Program.QuietTurn

variable {fresh : M → Prop} {h k : House} {t : House × M × Next M}

theorem modest (turn : QuietTurn fresh h t) (m : M) : ModestTurn fresh h m t :=
  ⟨turn.spares, turn.goes, fun job starts => absurd starts (turn.quiet job)⟩

theorem before (first : h.Spares k) (turn : QuietTurn fresh k t) : QuietTurn fresh h t :=
  ⟨first.trans turn.spares, turn.goes, turn.quiet⟩

theorem weaken {less : M → Prop} (turn : QuietTurn fresh h t)
    (implies : ∀ {m}, less m → fresh m) : QuietTurn less h t :=
  ⟨turn.spares, turn.goes ∘ implies, turn.quiet⟩

end Program.QuietTurn

namespace Mission

open Program

/-- Before the run of the supervisor has been started. -/
def Fresh (s : State) : Prop :=
  match s.activity with
  | .opening => True
  | _ => False

def Early (s : State) : Prop :=
  match s.activity with
  | .opening => True
  | .opened => True
  | .rising => True
  | _ => False

theorem Fresh.early {s : State} (fresh : Fresh s) : Early s := by
  unfold Fresh at fresh
  split at fresh
  · rename_i opening
    simp [Early, opening]
  · exact False.elim fresh

theorem finish_quiet (h : House) (s : State) (r : Result) : QuietTurn Early h (finish h s r) :=
  ⟨.refl h, id, fun _ same => by cases same⟩

theorem close_quiet (h : House) (s : State) (r : Result) : QuietTurn Early h (close h s r) :=
  ⟨h.stop_spares, id, fun _ same => by cases same⟩

theorem reportPlan_quiet (h : House) (s : State) : QuietTurn Early h (reportPlan h s) := by
  have reported (k : House) (printed : h.Spares k) : QuietTurn Early h
      (if k.supervisor.runner.succeeded then close k s (.code 0)
      else close (k.print (cancelledLine k.supervisor.runner.completed)) s (.code 1)) := by
    refine .before printed ?_
    split
    · exact close_quiet k s _
    · exact .before (k.print_spares _) (close_quiet _ s _)
  unfold reportPlan
  cases h.supervisor.sampler.slot.value with
  | some p => exact reported _ (h.print_spares (finalLine p))
  | none => exact reported h (.refl h)

theorem lookAtPlan_quiet (h : House) (s : State) : QuietTurn Early h (lookAtPlan h s) := by
  unfold lookAtPlan
  split
  · exact reportPlan_quiet h s
  · exact ⟨.refl h, id, fun _ same => by cases same⟩

theorem startPlan_quiet (h : House) (s : State) (route : String) (yaw : Float) :
    QuietTurn Early h (startPlan h s route yaw) := by
  unfold startPlan
  refine .before ((h.print_spares (initialLine yaw)).trans
    (House.log_spares _ (Route.build route yaw).2)) ?_
  dsimp only
  split
  · exact close_quiet _ s _
  · rename_i segments _
    refine .before (House.startPlan_spares _ (segments.map .segment) (some yaw)) ?_
    split
    · exact close_quiet _ s _
    · exact lookAtPlan_quiet _ s

theorem lookForPose_quiet (v : View) (h : House) (s : State) (route : String)
    (w : Sampler.Wait Float) : QuietTurn Early h (lookForPose v h s route w) := by
  unfold lookForPose
  split
  · exact startPlan_quiet h s route _
  · exact .before (h.log_spares _) (close_quiet _ s _)
  · exact ⟨.refl h, id, fun _ same => by cases same⟩

theorem continueReading_quiet (h : House) (s : State) (session : ReadingSession Float)
    (how : Wake) : QuietTurn Early h (continueReading h s session how) := by
  unfold continueReading
  refine .before (h.read_spares session how) ?_
  dsimp only
  split
  · exact ⟨.refl _, id, fun _ same => by cases same⟩
  · exact close_quiet _ s _
  · exact close_quiet _ s _
  · exact close_quiet _ s _

theorem startHolding_quiet (h : House) (s : State) (p : Posture) (stay : Stay) :
    QuietTurn Early h (startHolding h s p stay) := by
  unfold startHolding
  refine .before ((h.setMode_spares (.holding p)).trans (House.print_spares _ (holdingLine p))) ?_
  cases stay with
  | untilStopped => exact ⟨.refl _, id, fun _ same => by cases same⟩
  | lasting d => exact ⟨.refl _, id, fun _ same => by cases same⟩
  | unclear => exact close_quiet _ _ _

theorem begin_quiet (v : View) (h : House) (s : State) : QuietTurn Early h (begin v h s) := by
  unfold begin
  dsimp only
  split
  · exact lookForPose_quiet v h s _ _
  · exact continueReading_quiet h s _ _
  · exact startHolding_quiet h s _ _
  · exact .before (h.setMode_spares _) (finish_quiet _ s _)

theorem rise_cases (v : View) (h : House) (s : State) :
    (v.ended s.runTask = false ∧ h.supervisor.status ≠ .active ∧
        rise v h s = (h, { s with activity := .rising }, .sleep 0.05)) ∨
      ((v.ended s.runTask = true ∨ h.supervisor.status = .active) ∧
        QuietTurn Early h (rise v h s)) := by
  unfold rise
  split
  · rename_i ended
    exact .inr ⟨.inl ended, .refl h, id, fun _ same => by cases same⟩
  · rename_i alive
    split
    · rename_i active
      exact .inr ⟨.inr active, begin_quiet v h s⟩
    · rename_i other
      exact .inl ⟨by simpa using alive, other, rfl⟩

theorem cancel_quiet (h : House) (s : State) : QuietTurn Early h (cancel h s) := by
  unfold cancel
  split
  · exact close_quiet h s _
  · exact close_quiet h s _
  · exact close_quiet h s _
  · exact continueReading_quiet h s _ _
  · exact finish_quiet h s _

theorem fail_quiet (h : House) (s : State) (why : Fault Float) :
    QuietTurn Early h (fail h s why) := by
  unfold fail
  split
  · exact close_quiet h s _
  · exact finish_quiet h s _

theorem resume_quiet (v : View) (h : House) {s : State} (past : ¬ Early s) :
    QuietTurn Early h (resume v h s) := by
  unfold resume
  split
  · rename_i opening
    exact absurd (by simp [Early, opening]) past
  · rename_i opened
    exact absurd (by simp [Early, opened]) past
  · rename_i rising
    exact absurd (by simp [Early, rising]) past
  · exact .before (h.log_spares _) (finish_quiet _ s _)
  · exact lookForPose_quiet v h s _ _
  · exact lookAtPlan_quiet h s
  · exact continueReading_quiet h s _ _
  · exact finish_quiet h s _
  · exact finish_quiet h s _
  · exact close_quiet h s _

theorem program_quiet (v : View) (h : House) {s : State} (how : Wake) (past : ¬ Early s) :
    QuietTurn Early h (program v h s how) := by
  cases how with
  | cancelled => exact cancel_quiet h s
  | raised why => exact fail_quiet h s why
  | started t => exact resume_quiet v h (s := { s with runTask := t }) past
  | go => exact resume_quiet v h past

theorem rise_quiet (v : View) (h : House) (s : State) : QuietTurn Fresh h (rise v h s) := by
  rcases rise_cases v h s with ⟨_, _, eq⟩ | ⟨_, turn⟩
  · rw [eq]; exact ⟨.refl h, id, fun _ same => by cases same⟩
  · exact turn.weaken Fresh.early

theorem resume_modest (v : View) (h : House) (s : State) :
    ModestTurn Fresh h s (resume v h s) := by
  cases activity : s.activity with
  | opening =>
    simp only [resume, activity]
    refine ⟨.refl h, id, fun job starts => ⟨?_, s.interface, by cases starts; rfl⟩⟩
    simp [Fresh, activity]
  | opened => simp only [resume, activity]; exact (rise_quiet v h s).modest s
  | rising => simp only [resume, activity]; exact (rise_quiet v h s).modest s
  | _ =>
    have past : ¬ Early s := by simp [Early, activity]
    exact ((resume_quiet v h past).weaken Fresh.early).modest s

theorem program_modest : Program.Modest program Fresh := by
  intro v h s how
  cases how with
  | cancelled => exact ((cancel_quiet h s).weaken Fresh.early).modest s
  | raised why => exact ((fail_quiet h s why).weaken Fresh.early).modest s
  | started t =>
    have turn := resume_modest v h { s with runTask := t }
    exact ⟨turn.spares, turn.goes, turn.starts⟩
  | go => exact resume_modest v h s

end Mission

namespace Demo

open Program

def Fresh (s : State) : Prop :=
  match s.activity with
  | .opening => True
  | _ => False

theorem finish_quiet (h : House) (s : State) (b : Bool) : QuietTurn Fresh h (finish h s b) :=
  ⟨.refl h, id, fun _ same => by cases same⟩

theorem fail_quiet (h : House) (s : State) (why : Fault Float) :
    QuietTurn Fresh h (fail h s why) := ⟨.refl h, id, fun _ same => by cases same⟩

theorem lookAtPlan_quiet (v : View) (h : House) (s : State) :
    QuietTurn Fresh h (lookAtPlan v h s) := by
  unfold lookAtPlan
  split
  · exact ⟨(h.log_spares _).trans (House.stop_spares _), id, fun _ same => by cases same⟩
  · exact ⟨.refl h, id, fun _ same => by cases same⟩

theorem startPlan_quiet (v : View) (h : House) (s : State) (yaw : Float) :
    QuietTurn Fresh h (startPlan v h s yaw) := by
  unfold startPlan
  refine .before (h.log_spares (Route.build s.plan yaw).2) ?_
  dsimp only
  split
  · exact fail_quiet _ s _
  · rename_i segments _
    refine .before ((House.log_spares _ (listed 1 segments)).trans
      (House.startPlan_spares _ (segments.map .segment) (some yaw))) ?_
    split
    · exact fail_quiet _ s _
    · exact lookAtPlan_quiet v _ s

theorem lookForPose_quiet (v : View) (h : House) (s : State) (w : Sampler.Wait Float) :
    QuietTurn Fresh h (lookForPose v h s w) := by
  unfold lookForPose
  split
  · exact startPlan_quiet v h s _
  · exact fail_quiet h s _
  · exact ⟨.refl h, id, fun _ same => by cases same⟩

theorem resume_modest (v : View) (h : House) (s : State) :
    ModestTurn Fresh h s (resume v h s) := by
  unfold resume
  split
  · rename_i opening
    refine ⟨h.log_spares _, id, fun job starts => ⟨?_, "sim0", by cases starts; rfl⟩⟩
    simp [Fresh, opening]
  · exact QuietTurn.modest ⟨.refl h, id, fun _ same => by cases same⟩ s
  · exact (lookForPose_quiet v h s _).modest s
  · exact (lookForPose_quiet v h s _).modest s
  · exact (lookAtPlan_quiet v h s).modest s
  · exact (QuietTurn.before (h.log_spares _) (finish_quiet _ s _)).modest s
  · rename_i r ended
    refine QuietTurn.modest ⟨.refl h, ?_, fun _ same => by cases same⟩ s
    simp [Fresh, ended]

theorem program_modest : Program.Modest program Fresh := by
  intro v h s how
  cases how with
  | cancelled => exact QuietTurn.modest ⟨.refl h, id, fun _ same => by cases same⟩ s
  | raised why => exact (fail_quiet h s why).modest s
  | started t =>
    have turn := resume_modest v h { s with runTask := t }
    exact ⟨turn.spares, turn.goes, turn.starts⟩
  | go => exact resume_modest v h s

end Demo
end Quadruped
