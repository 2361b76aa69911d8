import Quadruped.Schedule.Rounds

/-!
The bookkeeping of a schedule. Signals, timers and queues come and go; what the tasks work at, how
they have ended and what they share is another matter. An operation that touches none of these is
still, also where it adds a task that waits for the flag.
-/
namespace Quadruped.Schedule.World

variable {S J E : Type}

def post (w : World S J E) (t : Nat) : Option (Work J × Option (Ending Float)) :=
  (w.tasks[t]?).map fun task => (task.work, task.ending)

theorem hasEnded_post {w : World S J E} {t : Nat} {work : Work J}
    {ending : Option (Ending Float)} (at_work : w.post t = some (work, ending)) :
    w.hasEnded t = ending.isSome := by
  obtain ⟨task, found, same⟩ := Option.map_eq_some_iff.mp at_work
  have ended : task.ending = ending := congrArg Prod.snd same
  rw [hasEnded, ending?, found]
  exact congrArg Option.isSome ended

structure Still (w v : World S J E) : Prop where
  shared : v.shared = w.shared
  stage : v.stage = w.stage
  posts : ∀ i, v.post i = w.post i ∨ w.post i = none ∧ v.post i = some (.flagWait, none)

namespace Still

theorem of_tasks {w v : World S J E} (shared : v.shared = w.shared) (stage : v.stage = w.stage)
    (tasks : v.tasks = w.tasks) : Still w v :=
  ⟨shared, stage, fun i => .inl (by rw [post, post, tasks])⟩

theorem refl (w : World S J E) : Still w w := of_tasks rfl rfl rfl

theorem trans {w v u : World S J E} (first : Still w v) (second : Still v u) : Still w u where
  shared := second.shared.trans first.shared
  stage := second.stage.trans first.stage
  posts i := by
    rcases second.posts i with same | ⟨new, waits⟩
    · rw [same]
      exact first.posts i
    · rcases first.posts i with old | ⟨_, waiting⟩
      · exact .inr ⟨old ▸ new, waits⟩
      · rw [new] at waiting
        cases waiting

theorem kept {w v : World S J E} (same : Still w v) {i : Nat}
    {p : Work J × Option (Ending Float)} (at_work : w.post i = some p) : v.post i = some p := by
  rcases same.posts i with old | ⟨missing, _⟩
  · exact old.trans at_work
  · cases missing.symm.trans at_work

end Still

theorem modifyTask_post (w : World S J E) (t i : Nat) (f : Task J → Task J) :
    (w.modifyTask t f).post i =
      if t = i then (w.tasks[i]?).map fun task => ((f task).work, (f task).ending)
      else w.post i := by
  unfold post modifyTask
  dsimp only
  rw [Array.getElem?_modify]
  split
  · cases w.tasks[i]? <;> rfl
  · rfl

theorem modifyTask_still (w : World S J E) (t : Nat) {f : Task J → Task J}
    (keeps : ∀ task, ((f task).work, (f task).ending) = (task.work, task.ending)) :
    Still w (w.modifyTask t f) where
  shared := rfl
  stage := rfl
  posts i := by
    left
    rw [modifyTask_post]
    split
    · exact congrArg (fun g => (w.tasks[i]?).map g) (funext keeps)
    · rfl

theorem addSignal_still (w : World S J E) (hooks : List Hook) (owner : Option Nat) :
    Still w (w.addSignal hooks owner).1 := .of_tasks rfl rfl rfl

theorem push_still (w : World S J E) (e : Entry E) : Still w (w.push e) := .of_tasks rfl rfl rfl

theorem hang_still (w : World S J E) (i : Nat) (h : Hook) : Still w (w.hang i h) :=
  .of_tasks rfl rfl rfl

theorem goOn_still (w : World S J E) (t : Nat) (how : Wake) : Still w (w.goOn t how) :=
  .of_tasks rfl rfl rfl

theorem addTimer_still (w : World S J E) (deadline : Float) (e : Entry E) :
    Still w (w.addTimer deadline e) := by
  unfold addTimer
  dsimp only
  split <;> exact .of_tasks rfl rfl rfl

theorem settle_still (w : World S J E) (i : Nat) (state : SignalState) :
    Still w (w.settle i state) := by
  unfold settle
  dsimp only
  split
  · exact .of_tasks rfl rfl rfl
  · exact .refl w

theorem waitOn_still (w : World S J E) (t i : Nat) : Still w (w.waitOn t i) :=
  w.modifyTask_still t fun _ => rfl

theorem waitFresh_still (w : World S J E) (t : Nat) : Still w (w.waitFresh t).1 :=
  (w.addSignal_still _ _).trans (waitOn_still _ t _)

theorem cancelChain_still (depth : Nat) (w : World S J E) (t : Nat) :
    Still w (cancelChain depth w t) := by
  -- a task that joins another hands the cancellation on to that one
  induction depth generalizing t with
  | zero => exact .refl w
  | succ depth ih =>
    unfold cancelChain
    repeat' split
    · exact .refl w
    · exact .refl w
    · exact ih _
    · exact w.settle_still _ _
    · exact w.modifyTask_still t fun _ => rfl
    · exact w.modifyTask_still t fun _ => rfl

theorem cancelTask_still (w : World S J E) (t : Nat) : Still w (w.cancelTask t) :=
  cancelChain_still _ w t

theorem sleepTask_still (w : World S J E) (t : Nat) (duration : Float) :
    Still w (w.sleepTask t duration) := by
  unfold sleepTask
  split
  · exact w.push_still _
  · exact (w.waitFresh_still t).trans (addTimer_still _ _ _)

theorem joinTask_still (w : World S J E) (t inner : Nat) : Still w (w.joinTask t inner) := by
  unfold joinTask
  split
  · exact w.goOn_still t _
  · split
    · exact w.goOn_still t _
    · exact (w.hang_still _ _).trans (waitOn_still _ t _)

theorem reap_still (w : World S J E) (t inner : Nat) (expired : Bool) :
    Still w (w.reap t inner expired) :=
  (((w.waitFresh_still t).trans (hang_still _ _ _)).trans (cancelTask_still _ inner)).trans
    (modifyTask_still _ t fun _ => rfl)

theorem addTask_post (w : World S J E) (work : Work J) (hooks : List Hook) (i : Nat) :
    (w.addTask work hooks).1.post i =
      if i = w.tasks.size then some (work, none) else w.post i := by
  unfold addTask post
  dsimp only [push, addSignal]
  rw [Array.getElem?_push]
  split <;> rfl

theorem post_size (w : World S J E) : w.post w.tasks.size = none := by
  simp [post]

theorem addFlagWait_still (w : World S J E) (hooks : List Hook) :
    Still w (w.addTask .flagWait hooks).1 where
  shared := rfl
  stage := rfl
  posts i := by
    rw [addTask_post]
    split
    · rename_i new
      rw [new]
      exact .inr ⟨w.post_size, rfl⟩
    · exact .inl rfl

theorem raceFlag_still (w : World S J E) (t : Nat) (timeout : Float) :
    Still w (w.raceFlag t timeout) := by
  unfold raceFlag
  split
  · exact (w.addFlagWait_still []).trans (reap_still _ t _ true)
  · exact (((w.waitFresh_still t).trans (addTimer_still _ _ _)).trans
      (addFlagWait_still _ _)).trans (modifyTask_still _ t fun _ => rfl)

theorem awaitFlag_still (w : World S J E) (t : Nat) : Still w (w.awaitFlag t) :=
  (w.waitFresh_still t).trans (.of_tasks rfl rfl rfl)

theorem raiseFlag_still (b : Behaviour S J E) (w : World S J E) : Still w (w.raiseFlag b) := by
  have fulfilled (waiters : List Nat) (v : World S J E) :
      Still v (waiters.foldl (fun v i => v.fulfil i) v) := by
    induction waiters generalizing v with
    | nil => exact .refl v
    | cons i rest ih => exact (v.settle_still i .fulfilled).trans (ih _)
  unfold raiseFlag
  split
  · have lowered : Still w { w with flagWaiters := [] } := .of_tasks rfl rfl rfl
    exact lowered.trans (fulfilled w.flagWaiters _)
  · exact .refl w

theorem cancelAll_still (tasks : List Nat) (w : World S J E) :
    Still w (tasks.foldl cancelTask w) := by
  induction tasks generalizing w with
  | nil => exact .refl w
  | cons t rest ih => exact (w.cancelTask_still t).trans (ih _)

theorem interruptRun_still (w : World S J E) : Still w w.interruptRun := by
  unfold interruptRun
  split
  · exact .refl w
  · exact (w.cancelTask_still 0).trans (.of_tasks rfl rfl rfl)

end Quadruped.Schedule.World
