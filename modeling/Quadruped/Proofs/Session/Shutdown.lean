import Quadruped.Proofs.Schedule.Leads
import Quadruped.Proofs.Session.Spares
import Quadruped.Proofs.Session.Supervise
import Quadruped.Proofs.Supervisor.Course
import Quadruped.Settings.Basic

/-!
However a program ends, it leaves the robot at rest, if the robot takes the last stop. One task runs
the supervisor; the program and the waiters for the flag stand aside. The end of the whole awaits that
task, and the task does not end before its run is over.
-/
namespace Quadruped

open Schedule World

variable {M : Type}

/-- A task other than the supervisor's; the program has gone past its opening if that is over. -/
def StandsAside (fresh : M → Prop) (opened : Prop) (t : Nat) (work : Work (Job M)) : Prop :=
  work = .flagWait ∨ t = 0 ∧ ∃ m, work = .job (.main m) ∧ (opened → ¬ fresh m)

/-- Who is at work at the robot: nobody yet, or the one task that runs the supervisor. -/
inductive Manned (fresh : M → Prop) (w : World House (Job M) Empty) : Prop where
  | alone (calm : w.shared.bench.rig.hazards = .none) (untouched : w.shared.robot.Untouched)
      (aside : ∀ t work ending, w.post t = some (work, ending) →
        StandsAside fresh False t work)
  | watched (s : Nat) {run : Run Float} {reply : Option (Reply Float)}
      {ending : Option (Ending Float)} (calm : w.shared.bench.rig.hazards = .none)
      (watch : w.post s = some (.job (.supervise run reply), ending))
      (stands : w.shared.Stands reply run)
      (concluded : ending.isSome = true → ∃ e, run = .over e)
      (aside : ∀ t work ending, t ≠ s → w.post t = some (work, ending) →
        StandsAside fresh True t work)

theorem House.Spares.stands {h k : House} (spares : h.Spares k) {run : Run Float}
    {reply : Option (Reply Float)} (stands : h.Stands reply run) : k.Stands reply run := by
  have robot : k.robot = h.robot := congrArg Rig.simulator spares.rig
  cases run with
  | «over» e =>
    rcases stands with untouched | ⟨stopped, rest | refused⟩
    · exact .inl (robot ▸ untouched)
    · exact .inr ⟨spares.status.trans stopped, .inl (robot ▸ rest)⟩
    · exact .inr ⟨spares.status.trans stopped, .inr (spares.lines _ refused)⟩
  | _ =>
    unfold House.Stands at stands ⊢
    rw [robot]
    exact stands

theorem StandsAside.not_supervise {fresh : M → Prop} {opened : Prop} {t : Nat}
    {work : Work (Job M)} (aside : StandsAside fresh opened t work) (run : Run Float)
    (reply : Option (Reply Float)) : work ≠ .job (.supervise run reply) := by
  rintro rfl
  rcases aside with waits | ⟨_, m, main, _⟩
  · cases waits
  · cases main

theorem StandsAside.program {fresh : M → Prop} {opened : Prop} {t : Nat} {m : M}
    (aside : StandsAside fresh opened t (.job (.main m))) : t = 0 ∧ (opened → ¬ fresh m) := by
  rcases aside with waits | ⟨first, other, main, stale⟩
  · cases waits
  · cases main
    exact ⟨first, stale⟩

theorem StandsAside.not_reading {fresh : M → Prop} {opened : Prop} {t : Nat}
    {session : ReadingSession Float} : ¬ StandsAside fresh opened t (.job (.read session)) := by
  rintro (waits | ⟨_, m, main, _⟩)
  · cases waits
  · cases main

namespace Manned

variable {fresh : M → Prop} {w v : World House (Job M) Empty}

theorem still (same : Still w v) (manned : Manned fresh w) : Manned fresh v := by
  have posts {t : Nat} {work : Work (Job M)} {ending : Option (Ending Float)}
      (at_work : v.post t = some (work, ending)) :
      w.post t = some (work, ending) ∨ work = .flagWait := by
    rcases same.posts t with old | ⟨_, new⟩
    · exact .inl (old ▸ at_work)
    · cases new.symm.trans at_work
      exact .inr rfl
  cases manned with
  | alone calm untouched aside =>
    refine .alone (same.shared ▸ calm) (same.shared ▸ untouched) ?_
    intro t work ending at_work
    rcases posts at_work with old | waits
    · exact aside t work ending old
    · exact .inl waits
  | watched s calm watch stands concluded aside =>
    refine .watched s (same.shared ▸ calm) (same.kept watch) (same.shared ▸ stands) concluded ?_
    intro t work ending other at_work
    rcases posts at_work with old | waits
    · exact aside t work ending other old
    · exact .inl waits

theorem watched_at {t : Nat} {run : Run Float} {reply : Option (Reply Float)}
    {ending : Option (Ending Float)} (manned : Manned fresh w)
    (at_work : w.post t = some (.job (.supervise run reply), ending)) :
    w.shared.bench.rig.hazards = .none ∧ w.shared.Stands reply run ∧
      (ending.isSome = true → ∃ e, run = .over e) ∧
      ∀ i work ended, i ≠ t → w.post i = some (work, ended) → StandsAside fresh True i work := by
  cases manned with
  | alone calm untouched aside =>
    exact absurd rfl ((aside t _ _ at_work).not_supervise run reply)
  | watched s calm watch stands concluded aside =>
    by_cases same : t = s
    · rw [same, watch] at at_work
      cases at_work
      rw [same]
      exact ⟨calm, stands, concluded, aside⟩
    · exact absurd rfl ((aside t _ _ same at_work).not_supervise run reply)

theorem aside_at {t : Nat} {work : Work (Job M)} {ending : Option (Ending Float)}
    (manned : Manned fresh w) (at_work : w.post t = some (work, ending))
    (other : ∀ run reply, work ≠ .job (.supervise run reply)) :
    StandsAside fresh False t work := by
  cases manned with
  | alone calm untouched aside => exact aside t work ending at_work
  | watched s calm watch stands concluded aside =>
    have apart : t ≠ s := by
      rintro rfl
      cases watch.symm.trans at_work
      exact other _ _ rfl
    exact (aside t work ending apart at_work).imp id fun ⟨first, m, main, _⟩ =>
      ⟨first, m, main, False.elim⟩

theorem finish_post {t i : Nat} {e : Ending Float} {work : Work (Job M)}
    {ending : Option (Ending Float)} (at_work : (w.finishTask t e).post i = some (work, ending)) :
    ∃ before, w.post i = some (work, before) := by
  rw [finishTask_post] at at_work
  split at at_work
  · obtain ⟨⟨same, before⟩, old, eq⟩ := Option.map_eq_some_iff.mp at_work
    cases eq
    exact ⟨before, old⟩
  · exact ⟨ending, at_work⟩

theorem finish {t : Nat} (e : Ending Float)
    (other : ∀ run reply ending, w.post t ≠ some (.job (.supervise run reply), ending))
    (manned : Manned fresh w) : Manned fresh (w.finishTask t e) := by
  have shared := w.finishTask_shared t e
  cases manned with
  | alone calm untouched aside =>
    refine .alone (shared ▸ calm) (shared ▸ untouched) ?_
    intro i work ending at_work
    obtain ⟨before, old⟩ := finish_post at_work
    exact aside i work before old
  | @watched s run reply ending calm watch stands concluded aside =>
    have different : t ≠ s := fun same => other run reply ending (same ▸ watch)
    have kept : (w.finishTask t e).post s = w.post s := by
      rw [finishTask_post, if_neg different]
    refine .watched s (shared ▸ calm) (kept.trans watch) (shared ▸ stands) concluded ?_
    intro i work ended apart at_work
    obtain ⟨before, old⟩ := finish_post at_work
    exact aside i work before apart old

theorem finish_watch {t : Nat} {f : Ending Float} {reply : Option (Reply Float)}
    {ending : Option (Ending Float)} (e : Ending Float) (manned : Manned fresh w)
    (at_work : w.post t = some (.job (.supervise (.over f) reply), ending)) :
    Manned fresh (w.finishTask t e) := by
  obtain ⟨calm, stands, _, aside⟩ := manned.watched_at at_work
  have shared := w.finishTask_shared t e
  have ended : (w.finishTask t e).post t = some (.job (.supervise (.over f) reply), some e) := by
    rw [finishTask_post, if_pos rfl, at_work]
    rfl
  refine .watched t (shared ▸ calm) ended (shared ▸ stands) (fun _ => ⟨f, rfl⟩) ?_
  intro i work ended apart at_work
  obtain ⟨before, old⟩ := finish_post at_work
  exact aside i work before apart old

theorem seat_cases {t i : Nat} {h : House} {j : Job M} {work : Work (Job M)}
    {ending : Option (Ending Float)} (at_work : (w.seat t h j).post i = some (work, ending)) :
    t = i ∧ work = .job j ∨ t ≠ i ∧ w.post i = some (work, ending) := by
  rw [seat_post] at at_work
  split at at_work
  · rename_i same
    obtain ⟨p, _, eq⟩ := Option.map_eq_some_iff.mp at_work
    cases eq
    exact .inl ⟨same, rfl⟩
  · rename_i different
    exact .inr ⟨different, at_work⟩

theorem seat_main {t : Nat} {m : M} {ending : Option (Ending Float)} {turn : House × M × Next M}
    (modest : Program.ModestTurn fresh w.shared m turn)
    (at_work : w.post t = some (.job (.main m), ending)) (manned : Manned fresh w) :
    Manned fresh (w.seat t turn.1 (.main turn.2.1)) := by
  have calm_after (calm : w.shared.bench.rig.hazards = .none) :
      turn.1.bench.rig.hazards = .none := modest.spares.rig ▸ calm
  have first : t = 0 := (manned.aside_at at_work fun _ _ same => by cases same).program.1
  cases manned with
  | alone calm untouched aside =>
    have robot : turn.1.robot = w.shared.robot := congrArg Rig.simulator modest.spares.rig
    refine .alone (calm_after calm) (robot.symm ▸ untouched : turn.1.robot.Untouched) ?_
    intro i work ended at_seat
    rcases seat_cases at_seat with ⟨same, rfl⟩ | ⟨_, old⟩
    · exact .inr ⟨same ▸ first, turn.2.1, rfl, False.elim⟩
    · exact aside i work ended old
  | @watched s run reply watched_ending calm watch stands concluded aside =>
    have different : t ≠ s := by
      rintro rfl
      cases watch.symm.trans at_work
    have kept : (w.seat t turn.1 (.main turn.2.1)).post s = w.post s := by
      rw [seat_post, if_neg different]
    refine .watched s (calm_after calm) (kept.trans watch) (modest.spares.stands stands) concluded ?_
    intro i work ended apart at_seat
    rcases seat_cases at_seat with ⟨same, rfl⟩ | ⟨_, old⟩
    · exact .inr ⟨same ▸ first, turn.2.1, rfl, fun _ => modest.goes⟩
    · exact aside i work ended apart old

theorem seat_at {t : Nat} {h : House} {j k : Job M} {ending : Option (Ending Float)}
    (at_work : w.post t = some (.job j, ending)) :
    (w.seat t h k).post t = some (.job k, ending) := by
  rw [seat_post, if_pos rfl, at_work]
  rfl

theorem start {t : Nat} {m : M} {ending : Option (Ending Float)} {turn : House × M × Next M}
    (modest : Program.ModestTurn fresh w.shared m turn) (is_fresh : fresh m)
    (at_work : w.post t = some (.job (.main m), ending)) (manned : Manned fresh w)
    (same : Still (w.seat t turn.1 (.main turn.2.1)) v) (interface : String) :
    Manned fresh (v.addTask (.job (.supervise (.ready interface) none)) []).1 := by
  cases manned with
  | watched s calm watch stands concluded aside =>
    have different : t ≠ s := by
      rintro rfl
      cases watch.symm.trans at_work
    exact absurd is_fresh ((aside t _ _ different at_work).program.2 trivial)
  | alone calm untouched aside =>
    have rig : v.shared.bench.rig = w.shared.bench.rig :=
      (congrArg (·.bench.rig) same.shared).trans modest.spares.rig
    have robot : v.shared.robot = w.shared.robot := congrArg Rig.simulator rig
    have ready : v.shared.robot.Untouched := robot ▸ untouched
    have started : (v.addTask (.job (.supervise (.ready interface) none)) []).1.post
        v.tasks.size = some (.job (.supervise (.ready interface) none), none) := by
      rw [addTask_post, if_pos rfl]
    have first : t = 0 := (aside t _ _ at_work).program.1
    refine .watched v.tasks.size (rig ▸ calm) started ready (fun ended => by cases ended) ?_
    intro i work ended apart at_start
    rw [addTask_post, if_neg apart] at at_start
    rcases same.posts i with old | ⟨_, waits⟩
    · rw [at_start] at old
      rcases seat_cases old.symm with ⟨same, rfl⟩ | ⟨different, before⟩
      · exact .inr ⟨same ▸ first, turn.2.1, rfl, fun _ => modest.goes⟩
      · rcases aside i _ _ before with waits | ⟨other, _⟩
        · exact .inl waits
        · exact absurd (first.trans other.symm) different
    · cases waits.symm.trans at_start
      exact .inl rfl

theorem seat_watch {t : Nat} {run next : Run Float} {reply answer : Option (Reply Float)}
    {ending : Option (Ending Float)} {h : House} (manned : Manned fresh w)
    (at_work : w.post t = some (.job (.supervise run reply), ending))
    (calm : h.bench.rig.hazards = .none) (stands : h.Stands answer next)
    (concluded : ending.isSome = true → ∃ e, next = .over e) :
    Manned fresh (w.seat t h (.supervise next answer)) := by
  obtain ⟨_, _, _, aside⟩ := manned.watched_at at_work
  refine .watched t calm (seat_at at_work) stands concluded ?_
  intro i work ended apart at_seat
  rcases seat_cases at_seat with ⟨same, _⟩ | ⟨_, old⟩
  · exact absurd same.symm apart
  · exact aside i work ended apart old

variable {program : Program M}

theorem main_runs (modest : program.Modest fresh) {t : Nat} {m : M}
    {ending : Option (Ending Float)} (how : Wake) (manned : Manned fresh w)
    (at_work : w.post t = some (.job (.main m), ending)) :
    Manned fresh (w.runJob (House.behaviour program) t (.main m) how) := by
  have turn := modest w.view w.shared m how
  have seated := manned.seat_main turn at_work
  rcases runJob_cases (House.behaviour program) w t (.main m) how with
    ⟨e, v, _, same, eq⟩ | ⟨job, v, starts, same, added⟩ | same
  · rw [eq]
    refine (seated.still same).finish e ?_
    intro run reply ended watch
    cases (same.kept (seat_at at_work)).symm.trans watch
  · obtain ⟨is_fresh, interface, rfl⟩ := turn.starts job starts
    exact (manned.start turn is_fresh at_work same interface).still added
  · exact seated.still same

theorem supervise_runs {t : Nat} {run : Run Float} {reply : Option (Reply Float)}
    {ending : Option (Ending Float)} (how : Wake) (manned : Manned fresh w)
    (at_work : w.post t = some (.job (.supervise run reply), ending)) :
    Manned fresh (w.runJob (House.behaviour program) t (.supervise run reply) how) := by
  obtain ⟨calm, stands, concluded, _⟩ := manned.watched_at at_work
  have ran := runJob_cases (House.behaviour program) w t (.supervise run reply) how
  have keeps : House.KeepsWatch
      ((House.behaviour program).resume w.view w.shared (.supervise run reply) how) :=
    House.supervise_keeps_watch how calm stands
  -- a task that has ended may be driven once more; its run stays over
  have stays (ended : ending.isSome = true) : ∃ h f,
      (House.behaviour program).resume w.view w.shared (.supervise run reply) how =
        (h, .supervise (.over f) none, .finish f) := by
    obtain ⟨f, rfl⟩ := concluded ended
    exact ⟨_, f, rfl⟩
  generalize (House.behaviour program).resume w.view w.shared (.supervise run reply) how = turn
    at ran keeps stays
  cases keeps with
  | waits calm stands quiet =>
    have seated := manned.seat_watch at_work calm stands fun ended => by
      obtain ⟨h, f, same⟩ := stays ended
      cases same
      exact ⟨f, rfl⟩
    rcases ran with ⟨e, v, finishes, _⟩ | ⟨job, v, starts, _⟩ | same
    · rcases quiet with rfl | ⟨d, rfl⟩ <;> cases finishes
    · rcases quiet with rfl | ⟨d, rfl⟩ <;> cases starts
    · exact seated.still same
  | @ends h f e calm stands =>
    have seated := manned.seat_watch at_work calm stands fun _ => ⟨f, rfl⟩
    rcases ran with ⟨e, v, finishes, same, eq⟩ | ⟨job, v, starts, _⟩ | same
    · rw [eq]
      exact (seated.still same).finish_watch e (same.kept (seat_at at_work))
    · cases starts
    · exact seated.still same

theorem kept (modest : program.Modest fresh) :
    Kept (House.behaviour program) (Manned fresh) where
  still same manned := manned.still same
  ends e at_work manned := manned.finish e fun run reply ended watch => by
    cases at_work.symm.trans watch
  runs {w t j ending} how at_work manned := by
    cases j with
    | main m => exact manned.main_runs modest how at_work
    | supervise run reply => exact manned.supervise_runs how at_work
    | read session =>
      have aside := manned.aside_at at_work fun _ _ same => by cases same
      exact absurd aside StandsAside.not_reading

theorem ofJob {h : House} (calm : h.bench.rig.hazards = .none) (untouched : h.robot.Untouched)
    (m : M) (interruptAt : Option Float) :
    Manned fresh (World.ofJob h (.main m) interruptAt) := by
  refine .alone calm untouched ?_
  intro t work ending at_work
  unfold World.ofJob at at_work
  rw [addTask_post] at at_work
  split at at_work
  · rename_i first
    cases at_work
    exact .inr ⟨first, m, rfl, False.elim⟩
  · simp [post] at at_work

end Manned

theorem House.resume_robot {Q : Simulator Float → Prop} {program : Program M} {fresh : M → Prop}
    (modest : program.Modest fresh)
    (answers : ∀ (b : Bench Float) now request, Q b.robot → Q (b.answer now request).1.robot)
    (v : View) (h : House) (j : Job M) (how : Wake) (before : Q h.robot) :
    Q (House.resume program v h j how).1.robot := by
  cases j with
  | main m =>
    have same : (program v h m how).1.robot = h.robot :=
      congrArg Rig.simulator (modest v h m how).spares.rig
    exact (congrArg Q same).mpr before
  | read session =>
    unfold House.resume
    dsimp only
    split
    · exact before
    · exact before
  | supervise run reply =>
    change Q (h.carryOut v.now (run.resume (h.bench.moment v.now) h.supervisor
      (reply.getD how.reply)) : House × Job M × Next M).1.robot
    unfold House.carryOut
    split
    · exact before
    · exact before
    · exact answers _ v.now _ before

namespace Program.Modest

variable {program : Program M} {fresh : M → Prop} (modest : program.Modest fresh)
  {w v : World House (Job M) Empty}
include modest

theorem robot_kept {Q : Simulator Float → Prop}
    (answers : ∀ (b : Bench Float) now request, Q b.robot → Q (b.answer now request).1.robot)
    (run : Leads (House.behaviour program) w v) (before : Q w.shared.robot) : Q v.shared.robot :=
  shared_kept (Q := fun h : House => Q h.robot)
    (fun view h j how => h.resume_robot modest answers view j how) (fun _ cargo _ => nomatch cargo)
    run before

theorem leaves_at_rest {h : House} (calm : h.bench.rig.hazards = .none)
    (untouched : h.robot.Untouched) {m : M} {interruptAt : Option Float}
    (earlier : Leads (House.behaviour program) (World.ofJob h (.main m) interruptAt) w)
    (connected : w.shared.robot.connected = true) (later : Leads (House.behaviour program) w v)
    (closed : v.stage = .closed) :
    v.shared.supervisor.status = .stopped ∧
      v.shared.robot.history.size = h.robot.history.size ∧
      (¬ v.shared.Refused → v.shared.robot.AtRest) := by
  have whole := Leads.trans _ earlier later
  have manned : Manned fresh v := (Manned.kept modest).leads (fun _ cargo => nomatch cargo)
    (fun _ _ before => by cases before with
      | alone calm untouched aside => exact .alone calm untouched aside
      | watched s calm watch stands concluded aside => exact .watched s calm watch stands concluded aside)
    whole (Manned.ofJob calm untouched m interruptAt)
  have clocked : w.shared.robot.connected = true → w.shared.robot.lastTime.isSome = true :=
    modest.robot_kept (Q := fun s => s.connected = true → s.lastTime.isSome = true)
      (fun _ now request clocked => Bench.answer_clocked clocked now request) earlier
      (fun on => absurd (untouched.disconnected.symm.trans on) nofun)
  have timed : v.shared.robot.lastTime.isSome = true :=
    modest.robot_kept (Q := fun s => s.lastTime.isSome = true)
      (fun _ now request timed => Bench.answer_timed timed now request) later (clocked connected)
  have size : v.shared.robot.history.size = h.robot.history.size :=
    modest.robot_kept (Q := fun s => s.history.size = h.robot.history.size)
      (fun b now request same => (b.answer_size now request).trans same) whole rfl
  -- the clock of the robot tells that it was connected, also after the disconnect
  have touched : ¬ v.shared.robot.Untouched := by
    intro never
    rw [never.untimed] at timed
    cases timed
  have ended := closed_all_ended whole (by intro same; cases same) closed
  cases manned with
  | alone calm untouched aside => exact absurd untouched touched
  | watched s calm watch stands concluded aside =>
    obtain ⟨e, rfl⟩ := concluded (ended s _ _ watch)
    obtain ⟨stopped, rest⟩ := stands.resolve_left touched
    exact ⟨stopped, size, rest.resolve_right⟩

end Program.Modest

/-- However a program goes on from a world, a robot that was ever connected is at rest when it ends,
unless it did not take the last stop; the supervisor has stopped in any case, and the robot still
records as many commands as at first. -/
def LeavesAtRest (program : Program M) (first : World House (Job M) Empty) : Prop :=
  ∀ w v, Leads (House.behaviour program) first w → w.shared.robot.connected = true →
    Leads (House.behaviour program) w v → v.stage = .closed →
      v.shared.supervisor.status = .stopped ∧
        v.shared.robot.history.size = first.shared.robot.history.size ∧
        (¬ v.shared.Refused → v.shared.robot.AtRest)

/-- Any mission and any demonstration, with any supervisor, interrupted at any moment or at none. -/
theorem every_program_leaves_robot_at_rest {setup : Simulator.Setup Float}
    {simulator : Simulator Float} (made : Simulator.create setup = .ok simulator)
    (supervisor : Supervisor Float) (interruptAt : Option Float) :
    let house : House := .ofBench ⟨supervisor, .ofSimulator simulator .none⟩
    (∀ interface mission, LeavesAtRest Mission.program
        (World.ofJob house (.main (.ofMission interface mission)) interruptAt)) ∧
      ∀ plan, LeavesAtRest Demo.program
        (World.ofJob house (.main (.ofPlan plan)) interruptAt) := by
  intro house
  have untouched : house.robot.Untouched := Simulator.create_untouched made
  refine ⟨?_, ?_⟩
  · intro interface mission w v earlier connected later closed
    exact Mission.program_modest.leaves_at_rest rfl untouched earlier connected later closed
  · intro plan w v earlier connected later closed
    exact Demo.program_modest.leaves_at_rest rfl untouched earlier connected later closed

theorem interrupted_hold_leaves_robot_at_rest :
    let house : House := .ofBench ⟨.standard 0 [], .ofSimulator .standard .none⟩
    let first := World.ofJob house
      (.main (Mission.State.ofMission "sim" (.hold .sit .untilStopped))) (some 0.07)
    let held := first.run (House.behaviour Mission.program) 10
    let ended := held.run (House.behaviour Mission.program) 80
    Simulator.create .standard = .ok .standard ∧ held.shared.robot.connected = true ∧
      ended.interrupted = true ∧ ended.stage = .closed ∧
      ended.shared.supervisor.status = .stopped ∧ ended.shared.robot.AtRest ∧
      ended.shared.robot.lastCommand? = some .stop := by
  intro house first held ended
  have made := Simulator.create_standard
  have connected : held.shared.robot.connected = true := by decide +kernel
  have interrupted : ended.interrupted = true := by decide +kernel
  have closed : ended.stage = .closed := by decide +kernel
  have programs := every_program_leaves_robot_at_rest made (.standard 0 []) (some 0.07)
  obtain ⟨stopped, size, rest⟩ := programs.1 "sim" (.hold .sit .untilStopped) held ended
    (run_leads _ 10 first) connected (run_leads _ 80 held) closed
  have taken : ¬ ended.shared.Refused := by
    unfold House.Refused
    decide +kernel
  have at_rest := rest taken
  have room : 0 < ended.shared.robot.history.size := by
    rw [size]
    decide
  exact ⟨made, connected, interrupted, closed, stopped, at_rest, at_rest.recorded room⟩

/-- Not so for a turn that is too fast: the settings are good, but after two seconds the heading is
beyond the largest number, and no stop reaches the robot any more. -/
theorem interrupted_overflowing_turn_goes_on :
    let environment : Environment := { vars :=
      [("GO2_TURN_SPEED", "1e308"), ("GO2_CONTROL_PERIOD", "2"), ("GO2_STARTUP_REPEATS", "0")] }
    let gains : Gains Float := { Gains.standard with turnSpeed := 1e308 }
    let timing : Timing Float := { Timing.standard with controlPeriod := 2, startupRepeats := 0 }
    let runner : Runner Float :=
      { Runner.standard with gains, turn := .ofRates gains.turnSpeed gains.turnTolerance }
    let house : House :=
      .ofBench ⟨.create timing ⟨.standard, [], 0⟩ runner [], .ofSimulator .standard .none⟩
    let first := World.ofJob house (.main (Mission.State.ofMission "sim" (.plan "L90"))) (some 3)
    let ended := first.run (House.behaviour Mission.program) 270
    ((Settings.gains environment).toOption = some (gains, "elapsed") ∧
      (Settings.timing environment).toOption = some timing) ∧
    Runner.create gains "elapsed" = .ok runner ∧
    (ended.interrupted = true ∧ ended.stage = .closed) ∧
      ended.shared.robot.connected = true ∧
      ended.shared.robot.velocity = ⟨0, 0, 1e308⟩ ∧
      ended.shared.robot.lastCommand? = some (.velocity ⟨0, 0, 1e308⟩) := by
  refine ⟨?settings, rfl, ?run⟩
  case settings => decide +kernel
  case run => decide +kernel

end Quadruped
