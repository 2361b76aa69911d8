import Quadruped.Proofs.Schedule.Leads

/-!
What stands in the books of a schedule. Only the task that has just started another is told of it, and
at once: that entry goes to the head of the round, never to the next round or to a timer.
-/
namespace Quadruped.Heap

variable {α : Type} (before : α → α → Bool)

theorem mem_push {a : Array α} {x y : α} (inside : y ∈ push before a x) : y ∈ a ∨ y = x :=
  Array.mem_push.mp ((push_perm before a x).mem_iff.mp inside)

theorem mem_dropFirst {a : Array α} {y : α} (inside : y ∈ dropFirst before a) : y ∈ a := by
  unfold dropFirst at inside
  split at inside
  · rename_i filled
    have popped := (settle_perm before _ 0).mem_iff.mp inside
    have swapped : y ∈ a.swap 0 (a.size - 1) := by
      rw [Array.mem_def, Array.toList_pop] at popped
      exact Array.mem_def.mpr (List.dropLast_subset _ popped)
    exact (Array.swap_perm filled _).mem_iff.mp swapped
  · exact inside

theorem mem_popWhile (fits : α → Bool) (a : Array α) :
    (∀ y ∈ (popWhile before fits a).1, y ∈ a) ∧ ∀ y ∈ (popWhile before fits a).2, y ∈ a := by
  fun_induction popWhile before fits a with
  | case1 a filled fit out rest same ih =>
    rw [same] at ih
    refine ⟨?_, fun y inside => mem_dropFirst before (ih.2 y inside)⟩
    intro y inside
    rcases List.mem_cons.mp inside with rfl | later
    · exact Array.getElem_mem filled
    · exact mem_dropFirst before (ih.1 y later)
  | case2 a => exact ⟨nofun, fun _ => id⟩
  | case3 a => exact ⟨nofun, fun _ => id⟩

end Quadruped.Heap

namespace Quadruped.Schedule

variable {S J E : Type}

def Wake.Plain : Wake → Prop
  | .started _ => False
  | _ => True

def Entry.Plain : Entry E → Prop
  | .proceed _ how => how.Plain
  | _ => True

def Intent.Rests : Intent J E → Prop
  | .finish _ => False
  | .start _ => False
  | _ => True

theorem Wake.ofEnding_plain (e : Ending Float) : (ofEnding e).Plain := by
  cases e <;> trivial

namespace World

structure Shelved (w : World S J E) : Prop where
  queue : ∀ e ∈ w.queue, e.Plain
  timers : ∀ t ∈ w.timers, t.entry.Plain

structure Plain (w : World S J E) : Prop extends Shelved w where
  round : ∀ e ∈ w.current, e.Plain

theorem Plain.goOn {w : World S J E} (before : w.Plain) (t : Nat) {how : Wake} (plain : how.Plain) :
    (w.goOn t how).Plain := by
  refine ⟨⟨before.queue, before.timers⟩, ?_⟩
  intro e inside
  rcases List.mem_cons.mp inside with rfl | later
  · exact plain
  · exact before.round e later

theorem Plain.pop {w : World S J E} {e : Entry E} {rest : List (Entry E)} (before : w.Plain)
    (head : w.current = e :: rest) : e.Plain ∧ ({ w with current := rest } : World S J E).Plain := by
  obtain ⟨first, later⟩ := List.forall_mem_cons.mp (head ▸ before.round)
  exact ⟨first, ⟨before.queue, before.timers⟩, later⟩

structure Filed (w v : World S J E) : Prop where
  current : v.current = w.current
  shelved : w.Shelved → v.Shelved

namespace Filed

theorem of_same {w v : World S J E} (current : v.current = w.current) (queue : v.queue = w.queue)
    (timers : v.timers = w.timers) : Filed w v :=
  ⟨current, fun before => ⟨queue ▸ before.queue, timers ▸ before.timers⟩⟩

theorem refl (w : World S J E) : Filed w w := of_same rfl rfl rfl

theorem trans {w v u : World S J E} (first : Filed w v) (second : Filed v u) : Filed w u :=
  ⟨second.current.trans first.current, second.shelved ∘ first.shelved⟩

theorem plain {w v : World S J E} (filed : Filed w v) (before : w.Plain) : v.Plain :=
  ⟨filed.shelved before.toShelved, filed.current ▸ before.round⟩

end Filed

variable (w : World S J E)

theorem modifyTask_filed (t : Nat) (f : Task J → Task J) : Filed w (w.modifyTask t f) :=
  .of_same rfl rfl rfl

theorem hang_filed (i : Nat) (h : Hook) : Filed w (w.hang i h) := .of_same rfl rfl rfl

theorem waitFresh_filed (t : Nat) : Filed w (w.waitFresh t).1 := .of_same rfl rfl rfl

theorem push_filed {e : Entry E} (plain : e.Plain) : Filed w (w.push e) := by
  refine ⟨rfl, fun before => ⟨?_, before.timers⟩⟩
  intro f inside
  rcases List.mem_cons.mp inside with rfl | older
  · exact plain
  · exact before.queue f older

theorem addTask_filed (work : Work J) (hooks : List Hook) :
    Filed w (w.addTask work hooks).1 := by
  have added : Filed w
      { (w.addSignal hooks (some w.tasks.size)).1 with
        tasks := w.tasks.push ⟨work, w.signals.size, none, false, none, none⟩ } :=
    .of_same rfl rfl rfl
  exact added.trans (push_filed _ trivial)

theorem pushTimer_filed (deadline : Float) {e : Entry E} (plain : e.Plain) :
    Filed w (w.pushTimer deadline e) := by
  refine ⟨rfl, fun before => ⟨before.queue, ?_⟩⟩
  intro t inside
  rcases Heap.mem_push Timer.before inside with older | rfl
  · exact before.timers t older
  · exact plain

theorem addTimer_filed (deadline : Float) {e : Entry E} (plain : e.Plain) :
    Filed w (w.addTimer deadline e) := by
  have pushed := w.pushTimer_filed deadline plain
  unfold addTimer
  dsimp only
  split
  · exact pushed
  · rename_i time _
    have interrupted := (w.pushTimer deadline e).pushTimer_filed time (e := .interrupt) trivial
    exact (pushed.trans interrupted).trans (.of_same rfl rfl rfl)

theorem entryOf_plain (i : Nat) (h : Hook) : (entryOf i h : Entry E).Plain := by
  cases h <;> trivial

theorem settle_filed (i : Nat) (state : SignalState) : Filed w (w.settle i state) := by
  unfold settle
  dsimp only
  split
  · refine ⟨rfl, fun before => ⟨?_, before.timers⟩⟩
    intro e inside
    rcases List.mem_append.mp inside with hooked | older
    · obtain ⟨h, _, rfl⟩ := List.mem_map.mp (List.mem_reverse.mp hooked)
      exact entryOf_plain i h
    · exact before.queue e older
  · exact .refl w

theorem cancelChain_filed (depth : Nat) (t : Nat) : Filed w (cancelChain depth w t) := by
  induction depth generalizing t with
  | zero => exact .refl w
  | succ depth ih =>
    unfold cancelChain
    repeat' split
    · exact .refl w
    · exact .refl w
    · exact ih _
    · exact w.settle_filed _ _
    · exact w.modifyTask_filed t _
    · exact w.modifyTask_filed t _

theorem cancelTask_filed (t : Nat) : Filed w (w.cancelTask t) := w.cancelChain_filed _ t

theorem interruptRun_filed : Filed w w.interruptRun := by
  unfold interruptRun
  split
  · exact .refl w
  · exact (w.cancelTask_filed 0).trans (.of_same rfl rfl rfl)

theorem cancelAll_filed (tasks : List Nat) : Filed w (tasks.foldl cancelTask w) := by
  induction tasks generalizing w with
  | nil => exact .refl w
  | cons t rest ih => exact (w.cancelTask_filed t).trans (ih _)

theorem finishTask_filed (t : Nat) (e : Ending Float) : Filed w (w.finishTask t e) := by
  unfold finishTask
  split
  · exact .refl w
  · exact (w.modifyTask_filed t _).trans (settle_filed _ _ _)

theorem sleepTask_filed (t : Nat) (duration : Float) : Filed w (w.sleepTask t duration) := by
  unfold sleepTask
  split
  · exact w.push_filed trivial
  · exact (w.waitFresh_filed t).trans (addTimer_filed _ _ trivial)

theorem reap_filed (t inner : Nat) (expired : Bool) : Filed w (w.reap t inner expired) :=
  (((w.waitFresh_filed t).trans (hang_filed _ _ _)).trans (cancelTask_filed _ inner)).trans
    (modifyTask_filed _ t _)

theorem raceFlag_filed (t : Nat) (timeout : Float) : Filed w (w.raceFlag t timeout) := by
  unfold raceFlag
  split
  · exact (w.addTask_filed _ _).trans (reap_filed _ t _ true)
  · exact (((w.waitFresh_filed t).trans (addTimer_filed _ _ (e := .fulfil _) trivial)).trans
      (addTask_filed _ _ _)).trans (modifyTask_filed _ t _)

theorem awaitFlag_filed (t : Nat) : Filed w (w.awaitFlag t) :=
  (w.waitFresh_filed t).trans (.of_same rfl rfl rfl)

theorem raiseFlag_filed (b : Behaviour S J E) : Filed w (w.raiseFlag b) := by
  have fulfilled (waiters : List Nat) (v : World S J E) :
      Filed v (waiters.foldl (fun v i => v.fulfil i) v) := by
    induction waiters generalizing v with
    | nil => exact .refl v
    | cons i rest ih => exact (v.settle_filed i .fulfilled).trans (ih _)
  unfold raiseFlag
  split
  · have lowered : Filed w { w with flagWaiters := [] } := .of_same rfl rfl rfl
    exact lowered.trans (fulfilled w.flagWaiters _)
  · exact .refl w

theorem joinTask_filed (t inner : Nat) :
    Filed w (w.joinTask t inner) ∨ ∃ how, how.Plain ∧ w.joinTask t inner = w.goOn t how := by
  unfold joinTask
  split
  · exact .inr ⟨.go, trivial, rfl⟩
  · split
    · rename_i e _
      exact .inr ⟨.ofEnding e, Wake.ofEnding_plain e, rfl⟩
    · exact .inl ((w.hang_filed _ _).trans (modifyTask_filed _ t _))

theorem betweenRounds_plain {w : World S J E} (before : w.Plain) : w.betweenRounds.Plain := by
  have started : w.startRound.Plain := by
    have live := (Heap.mem_popWhile Timer.before (!w.isLive ·) w.timers).2
    have dropped : Filed w w.dropSettled :=
      ⟨rfl, fun shelved => ⟨shelved.queue, fun t inside => shelved.timers t (live t inside)⟩⟩
    have plain : w.dropSettled.Plain := dropped.plain before
    have popped := Heap.mem_popWhile Timer.before (isDue w.dropSettled.nextTime)
      w.dropSettled.timers
    unfold startRound
    dsimp only
    split
    · exact ⟨⟨plain.queue, plain.timers⟩, plain.round⟩
    · refine ⟨⟨nofun, fun t inside => plain.timers t (popped.2 t inside)⟩, ?_⟩
      intro e inside
      rcases List.mem_append.mp inside with queued | due
      · exact plain.queue e (List.mem_reverse.mp queued)
      · obtain ⟨t, out, rfl⟩ := List.mem_map.mp due
        exact plain.timers t (popped.1 t out)
  unfold betweenRounds
  split
  · exact started
  · split
    · exact ⟨⟨before.queue, before.timers⟩, before.round⟩
    · have closing : Filed w { w with stage := .closing } := .of_same rfl rfl rfl
      exact (closing.trans (cancelAll_filed _ _)).plain before
  · split
    · exact ⟨⟨before.queue, before.timers⟩, before.round⟩
    · exact started
  · exact before

theorem betweenRounds_still (w : World S J E) : ∃ stage, Still { w with stage } w.betweenRounds := by
  have started : ∃ stage, Still { w with stage } w.startRound := by
    unfold startRound
    dsimp only
    split
    · exact ⟨.stuck, .of_tasks rfl rfl rfl⟩
    · exact ⟨w.stage, .of_tasks rfl rfl rfl⟩
  unfold betweenRounds
  split
  · exact started
  · split
    · exact ⟨.closed, .refl _⟩
    · exact ⟨.closing, cancelAll_still _ _⟩
  · split
    · exact ⟨.closed, .refl _⟩
    · exact started
  · exact ⟨w.stage, .refl w⟩

section Turn

variable (b : Behaviour S J E) (w : World S J E) (t : Nat) (j : J) (how : Wake)

theorem runJob_eq :
    let turn := b.resume w.view w.shared j how
    w.runJob b t j how = ((w.seat t turn.1 turn.2.1).raiseFlag b).follow b t turn.2.2 := rfl

theorem runJob_finishes {e : Ending Float}
    (intent : (b.resume w.view w.shared j how).2.2 = .finish e) :
    let turn := b.resume w.view w.shared j how
    let seated := w.seat t turn.1 turn.2.1
    ∃ v, Still seated v ∧ Filed seated v ∧
      w.runJob b t j how = v.finishTask t e := by
  intro turn seated
  refine ⟨_, seated.raiseFlag_still b, seated.raiseFlag_filed b, ?_⟩
  rw [runJob_eq, intent]
  rfl

theorem runJob_starts {job : J}
    (intent : (b.resume w.view w.shared j how).2.2 = .start job) :
    let turn := b.resume w.view w.shared j how
    let seated := w.seat t turn.1 turn.2.1
    ∃ v, Still seated v ∧ Filed seated v ∧
      w.runJob b t j how = (v.addTask (.job job) []).1.goOn t (.started v.tasks.size) := by
  intro turn seated
  refine ⟨_, seated.raiseFlag_still b, seated.raiseFlag_filed b, ?_⟩
  rw [runJob_eq, intent]
  rfl

variable {w t j} in
theorem runJob_post {ending : Option (Ending Float)}
    (at_work : w.post t = some (.job j, ending)) :
    (∃ e, (w.runJob b t j how).post t =
        some (.job (b.resume w.view w.shared j how).2.1, e)) ∧
      ∀ i p, i ≠ t → w.post i = some p → (w.runJob b t j how).post i = some p := by
  let seated := w.seat t (b.resume w.view w.shared j how).1 (b.resume w.view w.shared j how).2.1
  have own : seated.post t = some (.job (b.resume w.view w.shared j how).2.1, ending) := by
    rw [seat_post, if_pos rfl, at_work]
    rfl
  have other (i : Nat) (apart : i ≠ t) : seated.post i = w.post i := by
    rw [seat_post, if_neg (Ne.symm apart)]
  rcases runJob_cases b w t j how with
    ⟨e, v, _, same, eq⟩ | ⟨job, v, _, same, added⟩ | same
  · rw [eq]
    refine ⟨⟨some e, ?_⟩, fun i p apart found => ?_⟩
    · rw [finishTask_post, if_pos rfl, same.kept own]
      rfl
    · rw [finishTask_post, if_neg (Ne.symm apart)]
      exact same.kept ((other i apart).trans found)
  · have kept {i : Nat} {p : Work J × Option (Ending Float)} (found : seated.post i = some p) :
        (w.runJob b t j how).post i = some p := by
      refine added.kept ?_
      have standing := same.kept found
      have inside : i ≠ v.tasks.size := by
        rintro rfl
        cases v.post_size.symm.trans standing
      rw [addTask_post, if_neg inside]
      exact standing
    exact ⟨⟨ending, kept own⟩, fun i p apart found => kept ((other i apart).trans found)⟩
  · exact ⟨⟨ending, same.kept own⟩,
      fun i p apart found => same.kept ((other i apart).trans found)⟩

theorem runJob_rests (rests : (b.resume w.view w.shared j how).2.2.Rests) :
    let turn := b.resume w.view w.shared j how
    Still (w.seat t turn.1 turn.2.1) (w.runJob b t j how) ∧
      (w.Plain → (w.runJob b t j how).Plain) := by
  intro turn
  let seated := w.seat t turn.1 turn.2.1
  let raised := seated.raiseFlag b
  have still : Still seated raised := seated.raiseFlag_still b
  have plain (before : w.Plain) : raised.Plain :=
    (seated.raiseFlag_filed b).plain ⟨⟨before.queue, before.timers⟩, before.round⟩
  have waits {v : World S J E} (same : Still raised v) (filed : Filed raised v) :
      Still seated v ∧ (w.Plain → v.Plain) := ⟨still.trans same, filed.plain ∘ plain⟩
  have goes {v : World S J E} {next : Wake} (same : Still raised v) (filed : Filed raised v)
      (heard : next.Plain) : Still seated (v.goOn t next) ∧ (w.Plain → (v.goOn t next).Plain) :=
    ⟨(still.trans same).trans (goOn_still v t next),
      fun before => (filed.plain (plain before)).goOn t heard⟩
  rw [runJob_eq]
  change turn.2.2.Rests at rests
  cases intent : turn.2.2 with
  | finish e => rw [intent] at rests; exact False.elim rests
  | start job => rw [intent] at rests; exact False.elim rests
  | proceed => exact goes (.refl raised) (.refl raised) trivial
  | sleep d => exact waits (raised.sleepTask_still t d) (raised.sleepTask_filed t d)
  | join inner =>
    rcases raised.joinTask_filed t inner with joined | ⟨next, heard, eq⟩
    · exact waits (raised.joinTask_still t inner) joined
    · have gone := goes (.refl raised) (.refl raised) heard
      rw [← eq] at gone
      exact gone
  | awaitFlag limit =>
    cases limit with
    | some limit => exact waits (raised.raceFlag_still t limit) (raised.raceFlag_filed t limit)
    | none =>
      simp only [follow]
      split
      · exact goes (.refl raised) (.refl raised) trivial
      · exact waits (raised.awaitFlag_still t) (raised.awaitFlag_filed t)
  | deliverLater delay cargo =>
    exact goes (raised.addTimer_still _ (.deliver cargo)) (raised.addTimer_filed _ trivial) trivial
  | setClock now =>
    exact goes (v := { raised with now }) (.of_tasks rfl rfl rfl) (.of_same rfl rfl rfl) trivial

end Turn

theorem drive_job {b : Behaviour S J E} {w : World S J E} {t : Nat} {j : J}
    {ending : Option (Ending Float)} (at_work : w.post t = some (.job j, ending)) (how : Wake) :
    w.drive b t how = w.runJob b t j how := by
  obtain ⟨task, found, same⟩ := Option.map_eq_some_iff.mp at_work
  have work : task.work = .job j := congrArg Prod.fst same
  unfold drive
  rw [found]
  simp only [Option.map_some, work]

/-- What an entry comes to. A job that has its turn hears of a task that it started from no other entry
than the one that tells it. -/
inductive Comes (b : Behaviour S J E) (w : World S J E) (e : Entry E) : World S J E → Prop where
  | books {v : World S J E} (still : Still w v) (filed : Filed w v) : Comes b w e v
  | delivers (cargo : E) : Comes b w e { w with shared := b.deliver w.now cargo w.shared }
  | closes : Comes b w e { w with stage := .finishing }
  | ends {v : World S J E} {t : Nat} {ending : Option (Ending Float)} (f : Ending Float)
      (still : Still w v) (filed : Filed w v) (waits : v.post t = some (.flagWait, ending)) :
      Comes b w e (v.finishTask t f)
  | turns {v : World S J E} {t : Nat} {j : J} {ending : Option (Ending Float)} {how : Wake}
      (still : Still w v) (filed : Filed w v) (at_work : v.post t = some (.job j, ending))
      (told : how.Plain ∨ e = .proceed t how) : Comes b w e (v.runJob b t j how)

section Comes

variable {b : Behaviour S J E} {w v : World S J E} {e : Entry E}

theorem drive_comes {t : Nat} {how : Wake} (still : Still w v) (filed : Filed w v)
    (told : how.Plain ∨ e = .proceed t how) : Comes b w e (v.drive b t how) := by
  cases task : v.tasks[t]? with
  | none =>
    unfold drive
    rw [task]
    exact .books still filed
  | some found =>
    have at_work : v.post t = some (found.work, found.ending) := by rw [post, task]; rfl
    cases work : found.work with
    | job j =>
      rw [work] at at_work
      rw [drive_job at_work]
      exact .turns still filed at_work told
    | flagWait =>
      rw [work] at at_work
      unfold drive
      rw [task]
      simp only [Option.map_some, work]
      unfold runFlagWait
      split
      · exact .ends _ still filed at_work
      · split
        · exact .ends _ still filed at_work
        · exact .books (still.trans (awaitFlag_still v t)) (filed.trans (awaitFlag_filed v t))

theorem passGuard_comes {t : Nat} {how : Wake} (g : Guard) (still : Still w v) (filed : Filed w v)
    (plain : how.Plain) : Comes b w e (v.passGuard b t how g) := by
  have reaped (inner : Nat) (expired : Bool) : Comes b w e (v.reap t inner expired) :=
    .books (still.trans (reap_still v t inner expired)) (filed.trans (reap_filed v t inner expired))
  have driven (next : Wake) (plain : next.Plain) : Comes b w e (v.drive b t next) :=
    drive_comes still filed (.inl plain)
  unfold passGuard
  repeat' split
  all_goals first
    | exact driven _ (Wake.ofEnding_plain _)
    | exact driven _ trivial
    | exact reaped _ _

theorem resumeTask_comes {t : Nat} {how : Wake} (plain : how.Plain) :
    Comes b w e (w.resumeTask b t how) := by
  unfold resumeTask
  split
  · exact .books (.refl w) (.refl w)
  · split
    · exact .books (.refl w) (.refl w)
    · rename_i task _ _
      let woken := w.modifyTask t fun task =>
        { task with mustCancel := false, waits := none, guarded := none }
      have still : Still w woken := w.modifyTask_still t fun _ => rfl
      have filed : Filed w woken := w.modifyTask_filed t _
      have heard : (if task.mustCancel then Wake.cancelled else how).Plain := by
        split
        · trivial
        · exact plain
      dsimp only
      split
      · exact drive_comes still filed (.inl heard)
      · exact passGuard_comes _ still filed heard

theorem wakeBy_plain (w : World S J E) (i : Nat) : (w.wakeBy i).Plain := by
  unfold wakeBy
  dsimp only
  split
  · trivial
  · split
    · exact Wake.ofEnding_plain _
    · trivial

theorem process_comes (w : World S J E) (e : Entry E) : Comes b w e (w.process b e) := by
  cases e with
  | step t => exact resumeTask_comes trivial
  | proceed t how => exact drive_comes (.refl w) (.refl w) (.inr rfl)
  | wake t i => exact resumeTask_comes (wakeBy_plain w i)
  | fulfil i => exact .books (w.settle_still i _) (w.settle_filed i _)
  | deliver cargo => exact .delivers cargo
  | interrupt => exact .books w.interruptRun_still w.interruptRun_filed
  | endRun => exact .closes

end Comes

end World
end Quadruped.Schedule
