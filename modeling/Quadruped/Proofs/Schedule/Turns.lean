import Quadruped.Proofs.Schedule.Still

/-!
The turns of the tasks. A turn of a job changes what is shared and what that task works at; beyond
that only the start of a task and the end of one are more than bookkeeping. What every turn keeps,
every run keeps.
-/
namespace Quadruped.Schedule.World

variable {S J E : Type}

theorem finishTask_shared (w : World S J E) (t : Nat) (e : Ending Float) :
    (w.finishTask t e).shared = w.shared := by
  unfold finishTask
  split
  · rfl
  · exact (settle_still _ _ .fulfilled).shared

theorem finishTask_stage (w : World S J E) (t : Nat) (e : Ending Float) :
    (w.finishTask t e).stage = w.stage := by
  unfold finishTask
  split
  · rfl
  · exact (settle_still _ _ .fulfilled).stage

theorem settle_tasks (w : World S J E) (i : Nat) (state : SignalState) :
    (w.settle i state).tasks = w.tasks := by
  unfold settle
  dsimp only
  split <;> rfl

theorem finishTask_post (w : World S J E) (t i : Nat) (e : Ending Float) :
    (w.finishTask t e).post i =
      if t = i then (w.post i).map fun p => (p.1, some e) else w.post i := by
  unfold finishTask
  split
  · rename_i missing
    split
    · rename_i same
      rw [← same, post, missing]
      rfl
    · rfl
  · unfold fulfil
    rw [post, settle_tasks]
    refine (modifyTask_post w t i _).trans ?_
    split
    · unfold post
      cases w.tasks[i]? <;> rfl
    · rfl

def seat (w : World S J E) (t : Nat) (shared : S) (j : J) : World S J E :=
  { w with shared }.modifyTask t fun task => { task with work := .job j }

theorem seat_post (w : World S J E) (t i : Nat) (shared : S) (j : J) :
    (w.seat t shared j).post i =
      if t = i then (w.post i).map fun p => (.job j, p.2) else w.post i := by
  refine (modifyTask_post { w with shared } t i _).trans ?_
  split
  · unfold post
    cases w.tasks[i]? <;> rfl
  · rfl

variable (b : Behaviour S J E)

theorem runJob_cases (w : World S J E) (t : Nat) (j : J) (how : Wake) :
    let turn := b.resume w.view w.shared j how
    let seated := w.seat t turn.1 turn.2.1
    (∃ e v, turn.2.2 = .finish e ∧ Still seated v ∧ w.runJob b t j how = v.finishTask t e) ∨
      (∃ job v, turn.2.2 = .start job ∧ Still seated v ∧
        Still (v.addTask (.job job) []).1 (w.runJob b t j how)) ∨
      Still seated (w.runJob b t j how) := by
  intro turn seated
  have raised : Still seated (seated.raiseFlag b) := seated.raiseFlag_still b
  have ran : w.runJob b t j how = (seated.raiseFlag b).follow b t turn.2.2 := rfl
  cases intent : turn.2.2 with
  | finish e => exact .inl ⟨e, _, rfl, raised, by rw [ran, intent]; rfl⟩
  | start job =>
    refine .inr (.inl ⟨job, _, rfl, raised, ?_⟩)
    rw [ran, intent]
    exact goOn_still _ t _
  | proceed => exact .inr (.inr (by rw [ran, intent]; exact raised.trans (goOn_still _ t _)))
  | sleep d => exact .inr (.inr (by rw [ran, intent]; exact raised.trans (sleepTask_still _ t d)))
  | join inner =>
    exact .inr (.inr (by rw [ran, intent]; exact raised.trans (joinTask_still _ t inner)))
  | awaitFlag limit =>
    right; right
    rw [ran, intent]
    refine raised.trans ?_
    cases limit with
    | some limit => exact raceFlag_still _ t limit
    | none =>
      simp only [follow]
      split
      · exact goOn_still _ t _
      · exact awaitFlag_still _ t
  | deliverLater delay cargo =>
    right; right
    rw [ran, intent]
    exact (raised.trans (addTimer_still _ _ _)).trans (goOn_still _ t _)
  | setClock now =>
    right; right
    rw [ran, intent]
    exact raised.trans (.of_tasks rfl rfl rfl)

/-- What has to be shown of a property of worlds for every turn of a task to keep it. -/
structure Kept (P : World S J E → Prop) : Prop where
  still : ∀ {w v}, Still w v → P w → P v
  ends : ∀ {w t ending} e, w.post t = some (.flagWait, ending) → P w → P (w.finishTask t e)
  runs : ∀ {w t j ending} how, w.post t = some (.job j, ending) → P w → P (w.runJob b t j how)

namespace Kept

variable {b} {P : World S J E → Prop} (kept : Kept b P)
include kept

theorem drive {w : World S J E} (t : Nat) (how : Wake) (before : P w) : P (w.drive b t how) := by
  unfold World.drive
  cases task : w.tasks[t]? with
  | none => exact before
  | some task' =>
    have at_work : w.post t = some (task'.work, task'.ending) := by rw [post, task]; rfl
    cases work : task'.work with
    | job j =>
      rw [work] at at_work
      simp only [Option.map_some, work]
      exact kept.runs how at_work before
    | flagWait =>
      rw [work] at at_work
      simp only [Option.map_some, work]
      unfold runFlagWait
      split
      · exact kept.ends _ at_work before
      · split
        · exact kept.ends _ at_work before
        · exact kept.still (w.awaitFlag_still t) before

theorem passGuard {w : World S J E} (t : Nat) (how : Wake) (g : Guard) (before : P w) :
    P (w.passGuard b t how g) := by
  unfold World.passGuard
  repeat' split
  all_goals first
    | exact kept.drive t _ before
    | exact kept.still (w.reap_still t _ _) before

theorem resumeTask {w : World S J E} (t : Nat) (how : Wake) (before : P w) :
    P (w.resumeTask b t how) := by
  unfold World.resumeTask
  split
  · exact before
  · split
    · exact before
    · have woken := kept.still (w.modifyTask_still t fun _ => rfl :
        Still w (w.modifyTask t fun task =>
          { task with mustCancel := false, waits := none, guarded := none })) before
      dsimp only
      split
      · exact kept.drive t _ woken
      · exact kept.passGuard t _ _ woken

end Kept

theorem runJob_shared (w : World S J E) (t : Nat) (j : J) (how : Wake) :
    (w.runJob b t j how).shared = (b.resume w.view w.shared j how).1 := by
  rcases runJob_cases b w t j how with
    ⟨e, v, _, still, eq⟩ | ⟨job, v, _, still, added⟩ | still
  · rw [eq, finishTask_shared, still.shared]; rfl
  · rw [added.shared]; exact still.shared
  · rw [still.shared]; rfl

theorem runJob_stage (w : World S J E) (t : Nat) (j : J) (how : Wake) :
    (w.runJob b t j how).stage = w.stage := by
  rcases runJob_cases b w t j how with
    ⟨e, v, _, still, eq⟩ | ⟨job, v, _, still, added⟩ | still
  · rw [eq, finishTask_stage, still.stage]; rfl
  · rw [added.stage]; exact still.stage
  · rw [still.stage]; rfl

end Quadruped.Schedule.World
