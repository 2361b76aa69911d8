import Quadruped.Proofs.Schedule.Turns

/-!
Runs of a schedule. A run leads from one world to the next by single steps, and it may be interrupted
between any two of them. It ends when every task has ended.
-/
namespace Quadruped.Schedule.World

variable {S J E : Type} (b : Behaviour S J E)

/-- Where a run can come to from a world. -/
inductive Leads (w : World S J E) : World S J E → Prop where
  | here : Leads w w
  | advances {v : World S J E} (earlier : Leads w v) (goes : v.isOver = false) :
      Leads w (v.advance b)
  | stops {v : World S J E} (earlier : Leads w v) (goes : v.isOver = false) :
      Leads w v.interruptRun

theorem Leads.trans {w v u : World S J E} (first : Leads b w v) (second : Leads b v u) :
    Leads b w u := by
  induction second with
  | here => exact first
  | advances _ goes ih => exact .advances ih goes
  | stops _ goes ih => exact .stops ih goes

theorem run_leads (n : Nat) (w : World S J E) : Leads b w (w.run b n) := by
  induction n generalizing w with
  | zero => exact .here
  | succ n ih =>
    unfold run
    cases goes : w.isOver with
    | true => exact .here
    | false => exact Leads.trans b (.advances .here goes) (ih (w.advance b))

variable {b}

theorem dropSettled_still (w : World S J E) : Still w w.dropSettled := .of_tasks rfl rfl rfl

namespace Kept

variable {P : World S J E → Prop} (kept : Kept b P)
  (delivers : ∀ w cargo, P w → P { w with shared := b.deliver w.now cargo w.shared })
  (stages : ∀ w stage, P w → P { w with stage })
include kept stages

theorem startRound {w : World S J E} (before : P w) : P w.startRound := by
  have dropped := kept.still w.dropSettled_still before
  unfold World.startRound
  dsimp only
  split
  · exact stages _ .stuck dropped
  · exact kept.still (w := w.dropSettled) (.of_tasks rfl rfl rfl) dropped

theorem betweenRounds {w : World S J E} (before : P w) : P w.betweenRounds := by
  unfold World.betweenRounds
  split
  · exact kept.startRound stages before
  · split
    · exact stages w .closed before
    · exact kept.still (cancelAll_still _ _) (stages w .closing before)
  · split
    · exact stages w .closed before
    · exact kept.startRound stages before
  · exact before

include delivers

theorem process {w : World S J E} (e : Entry E) (before : P w) : P (w.process b e) := by
  cases e with
  | step t => exact kept.resumeTask t _ before
  | proceed t how => exact kept.drive t how before
  | wake t i => exact kept.resumeTask t _ before
  | fulfil i => exact kept.still (w.settle_still i _) before
  | deliver cargo => exact delivers w cargo before
  | interrupt => exact kept.still w.interruptRun_still before
  | endRun => exact stages w .finishing before

theorem advance {w : World S J E} (before : P w) : P (w.advance b) := by
  unfold World.advance
  split
  · exact kept.betweenRounds stages before
  · exact kept.process delivers stages _ (kept.still (w := w) (.of_tasks rfl rfl rfl) before)

theorem leads {w v : World S J E} (run : Leads b w v) (before : P w) : P v := by
  induction run with
  | here => exact before
  | advances _ _ ih => exact kept.advance delivers stages ih
  | stops _ _ ih => exact kept.still (interruptRun_still _) ih

end Kept

theorem shared_kept {Q : S → Prop}
    (resumes : ∀ view s j how, Q s → Q (b.resume view s j how).1)
    (delivers : ∀ now cargo s, Q s → Q (b.deliver now cargo s)) {w v : World S J E}
    (run : Leads b w v) (before : Q w.shared) : Q v.shared := by
  have kept : Kept b fun w : World S J E => Q w.shared := {
    still := fun same before => same.shared ▸ before
    ends := fun e _ before => (finishTask_shared _ _ e).symm ▸ before
    runs := fun how _ before => (runJob_shared b _ _ _ how).symm ▸ resumes _ _ _ how before }
  exact kept.leads (fun w cargo => delivers w.now cargo w.shared) (fun _ _ before => before) run before

theorem stage_kept (stage : Stage) : Kept b fun w : World S J E => w.stage = stage where
  still same before := same.stage.trans before
  ends e _ before := (finishTask_stage _ _ e).trans before
  runs how _ before := (runJob_stage b _ _ _ how).trans before

theorem process_stage (w : World S J E) (e : Entry E) :
    (w.process b e).stage = w.stage ∨ (w.process b e).stage = .finishing := by
  cases e with
  | step t => exact .inl ((stage_kept w.stage).resumeTask t _ rfl)
  | proceed t how => exact .inl ((stage_kept w.stage).drive t how rfl)
  | wake t i => exact .inl ((stage_kept w.stage).resumeTask t _ rfl)
  | fulfil i => exact .inl (w.settle_still i _).stage
  | deliver cargo => exact .inl rfl
  | interrupt => exact .inl w.interruptRun_still.stage
  | endRun => exact .inr rfl

theorem startRound_stage (w : World S J E) :
    w.startRound.stage = .stuck ∨ w.startRound.stage = w.stage := by
  unfold startRound
  dsimp only
  split
  · exact .inl rfl
  · exact .inr rfl

def AllEnded (w : World S J E) : Prop :=
  ∀ i work ending, w.post i = some (work, ending) → ending.isSome = true

theorem none_open {w : World S J E} (empty : w.openTasks.isEmpty = true) : w.AllEnded := by
  intro i work ending at_work
  obtain ⟨task, found, same⟩ := Option.map_eq_some_iff.mp at_work
  have inside : i < w.tasks.size := by
    have := Array.getElem?_eq_some_iff.mp found
    exact this.1
  have ended : w.hasEnded i = true := by
    cases h : w.hasEnded i with
    | true => rfl
    | false =>
      have member : i ∈ w.openTasks := by simp [openTasks, inside, h]
      rw [List.isEmpty_iff.mp empty] at member
      cases member
  rw [hasEnded, ending?, found] at ended
  cases same
  exact ended

theorem betweenRounds_closed {w : World S J E} (goes : w.stage ≠ .closed)
    (closed : w.betweenRounds.stage = .closed) : w.betweenRounds.AllEnded := by
  unfold betweenRounds at closed ⊢
  have starting (started : w.startRound.stage = .closed) : False := by
    rcases w.startRound_stage with stuck | same
    · rw [stuck] at started; cases started
    · exact goes (same.symm.trans started)
  split at closed
  · exact (starting closed).elim
  · split at closed
    · rename_i empty
      rw [if_pos empty]
      exact none_open empty
    · rw [(cancelAll_still _ _).stage] at closed
      cases closed
  · split at closed
    · rename_i empty
      rw [if_pos empty]
      exact none_open empty
    · exact (starting closed).elim
  · exact absurd closed goes

theorem closed_all_ended {w v : World S J E} (run : Leads b w v) (goes : w.stage ≠ .closed)
    (closed : v.stage = .closed) : v.AllEnded := by
  have open_stage {u : World S J E} (more : u.isOver = false) : u.stage ≠ .closed := by
    intro same
    simp [isOver, same] at more
  cases run with
  | here => exact absurd closed goes
  | @advances u earlier more =>
    unfold advance at closed ⊢
    split at closed
    · rename_i empty
      exact betweenRounds_closed (open_stage more) closed
    · rename_i e rest _
      rcases process_stage (b := b) { u with current := rest } e with same | finishing
      · exact absurd (same.symm.trans closed) (open_stage more)
      · rw [finishing] at closed
        cases closed
  | @stops u earlier more =>
    exact absurd (u.interruptRun_still.stage.symm.trans closed) (open_stage more)

end Quadruped.Schedule.World
