import Quadruped.Proofs.Schedule.Filed
import Quadruped.Proofs.Session.Spares
import Quadruped.Proofs.Session.Supervise
import Quadruped.Proofs.Supervisor.Abreast

/-!
Who is there while a mission waits for its supervisor: the task of the mission, the task of the run
once it has been started, and nobody else who does anything. A turn of the run leaves the supervisor
abreast of it, or is its last.
-/
namespace Quadruped

open Schedule World

namespace House

variable {M : Type}

theorem answer_abreast {b : Bench Float} {leg : Leg} (now : Float) (request : Request Float)
    (before : b.supervisor.Abreast leg) : (b.answer now request).1.supervisor.Abreast leg := by
  cases request with
  | connect i => exact before.of_same rfl rfl
  | send c => exact before.of_same rfl rfl
  | sleep d => exact before
  | disconnect => exact before.of_same rfl rfl
  | finish e => exact before

theorem supervise_cases (h : House) (now : Float) (run : Run Float) (reply : Reply Float) :
    let turn : House × Job M × Next M := h.supervise now run reply
    ∃ next answer, turn.2.1 = .supervise next answer ∧
      ((∃ e, turn.2.2 = .finish e) ∨
        turn.2.2.Rests ∧
          (h.supervisor.Abreast run.leg → turn.1.supervisor.Abreast next.leg)) := by
  rw [supervise_eq]
  have abreast (before : h.supervisor.Abreast run.leg) :=
    Run.abreast_turn before (Run.resume_turn (h.bench.moment now) h.supervisor run reply)
  generalize run.resume (h.bench.moment now) h.supervisor reply = p at abreast
  have goes (unfinished : ∀ e, p.request ≠ .finish e) (before : h.supervisor.Abreast run.leg) :
      p.supervisor.Abreast p.run.leg :=
    (abreast before).resolve_left fun ⟨e, same⟩ => unfinished e same
  unfold carryOut
  cases request : p.request with
  | finish e => exact ⟨_, _, rfl, .inl ⟨e, rfl⟩⟩
  | sleep d => exact ⟨_, _, rfl, .inr ⟨trivial, goes (by simp [request])⟩⟩
  | connect i =>
    exact ⟨_, _, rfl, .inr ⟨trivial, fun before =>
      answer_abreast now (.connect i) (goes (by simp [request]) before)⟩⟩
  | send c =>
    exact ⟨_, _, rfl, .inr ⟨trivial, fun before =>
      answer_abreast now (.send c) (goes (by simp [request]) before)⟩⟩
  | disconnect =>
    exact ⟨_, _, rfl, .inr ⟨trivial, fun before =>
      answer_abreast now .disconnect (goes (by simp [request]) before)⟩⟩

end House

namespace Mission

variable {w v : World House (Job State) Empty} {m : State} {run : Option Nat}

/-- Who is there while the mission stands at `m`: the run of that number, if any, and perhaps some that
wait for the flag. -/
structure Crewed (w : World House (Job State) Empty) (m : State) (run : Option Nat) : Prop where
  mission : ∃ ending, w.post 0 = some (.job (.main m), ending)
  others : ∀ t work ending, t ≠ 0 → some t ≠ run → w.post t = some (work, ending) →
    work = .flagWait
  plain : w.Plain

def Watched (w : World House (Job State) Empty) : Option Nat → Prop
  | none => w.shared.supervisor.Rising
  | some s => s ≠ 0 ∧ ∃ run reply ending, w.post s = some (.job (.supervise run reply), ending) ∧
      (ending = none → w.shared.supervisor.Abreast run.leg)

namespace Crewed

theorem still (crewed : Crewed w m run) (same : Still w v) (plain : v.Plain) : Crewed v m run := by
  obtain ⟨ending, found⟩ := crewed.mission
  refine ⟨⟨ending, same.kept found⟩, ?_, plain⟩
  intro t work ending apart other at_work
  rcases same.posts t with old | ⟨_, new⟩
  · exact crewed.others t work ending apart other (old ▸ at_work)
  · cases new.symm.trans at_work
    rfl

theorem staged (crewed : Crewed w m run) (stage : Schedule.Stage) : Crewed { w with stage } m run :=
  ⟨crewed.mission, crewed.others, ⟨crewed.plain.queue, crewed.plain.timers⟩, crewed.plain.round⟩

theorem finish (crewed : Crewed w m run) (t : Nat) (e : Ending Float) :
    Crewed (w.finishTask t e) m run := by
  obtain ⟨ending, found⟩ := crewed.mission
  refine ⟨?_, ?_, (w.finishTask_filed t e).plain crewed.plain⟩
  · rw [finishTask_post, found]
    split
    · exact ⟨some e, rfl⟩
    · exact ⟨ending, rfl⟩
  · intro i work ended apart other at_work
    rw [finishTask_post] at at_work
    split at at_work
    · obtain ⟨⟨same, before⟩, old, eq⟩ := Option.map_eq_some_iff.mp at_work
      cases eq
      exact crewed.others i _ before apart other old
    · exact crewed.others i work ended apart other at_work

theorem seat_mission (crewed : Crewed w m run) (h : House) (n : State) :
    Crewed (w.seat 0 h (.main n)) n run := by
  obtain ⟨ending, found⟩ := crewed.mission
  refine ⟨⟨ending, by rw [seat_post, if_pos rfl, found]; rfl⟩, ?_,
    ⟨crewed.plain.queue, crewed.plain.timers⟩, crewed.plain.round⟩
  intro t work ended apart other at_work
  rw [seat_post, if_neg (Ne.symm apart)] at at_work
  exact crewed.others t work ended apart other at_work

theorem seat_run {s : Nat} (crewed : Crewed w m (some s)) (apart : s ≠ 0) (h : House)
    (j : Job State) : Crewed (w.seat s h j) m (some s) := by
  obtain ⟨ending, found⟩ := crewed.mission
  refine ⟨⟨ending, by rw [seat_post, if_neg apart]; exact found⟩, ?_,
    ⟨crewed.plain.queue, crewed.plain.timers⟩, crewed.plain.round⟩
  intro t work ended first other at_work
  rw [seat_post, if_neg fun same => other (congrArg some same.symm)] at at_work
  exact crewed.others t work ended first other at_work

theorem size_ne_zero (crewed : Crewed w m run) : w.tasks.size ≠ 0 := by
  intro empty
  obtain ⟨ending, found⟩ := crewed.mission
  rw [← empty, w.post_size] at found
  cases found

theorem add (crewed : Crewed w m none) (job : Job State) :
    Crewed (w.addTask (.job job) []).1 m (some w.tasks.size) := by
  obtain ⟨ending, found⟩ := crewed.mission
  refine ⟨⟨ending, ?_⟩, ?_, (w.addTask_filed (.job job) []).plain crewed.plain⟩
  · rw [addTask_post, if_neg (Ne.symm crewed.size_ne_zero)]
    exact found
  · intro t work ended apart other at_work
    rw [addTask_post, if_neg fun same => other (congrArg some same)] at at_work
    exact crewed.others t work ended apart nofun at_work

end Crewed

namespace Watched

theorem still (watched : Watched w run) (same : Still w v) : Watched v run := by
  cases run with
  | none => exact (congrArg (fun h : House => h.supervisor.Rising) same.shared).mpr watched
  | some s =>
    obtain ⟨apart, run, reply, ending, found, abreast⟩ := watched
    exact ⟨apart, run, reply, ending, same.kept found, fun alive => same.shared ▸ abreast alive⟩

theorem staged (watched : Watched w run) (stage : Schedule.Stage) :
    Watched { w with stage } run := by
  cases run with
  | none => exact watched
  | some s => exact watched

theorem finish_waiter (watched : Watched w run) {t : Nat} {ending : Option (Ending Float)}
    (waits : w.post t = some (.flagWait, ending)) (e : Ending Float) :
    Watched (w.finishTask t e) run := by
  have shared := w.finishTask_shared t e
  cases run with
  | none => exact (congrArg (fun h : House => h.supervisor.Rising) shared).mpr watched
  | some s =>
    obtain ⟨apart, run, reply, ended, found, abreast⟩ := watched
    have other : t ≠ s := by
      rintro rfl
      cases waits.symm.trans found
    refine ⟨apart, run, reply, ended, ?_, fun alive => shared ▸ abreast alive⟩
    rw [finishTask_post, if_neg other]
    exact found

theorem seat_mission {s : Nat} (watched : Watched w (some s)) (n : State) :
    Watched (w.seat 0 w.shared (.main n)) (some s) := by
  obtain ⟨apart, run, reply, ending, found, abreast⟩ := watched
  refine ⟨apart, run, reply, ending, ?_, abreast⟩
  rw [seat_post, if_neg (Ne.symm apart)]
  exact found

end Watched

theorem run_turn {s : Nat} {run : Run Float} {reply : Option (Reply Float)}
    {ending : Option (Ending Float)} (how : Wake) (crewed : Crewed w m (some s))
    (watched : Watched w (some s)) (at_work : w.post s = some (.job (.supervise run reply), ending)) :
    Crewed (w.runJob (House.behaviour program) s (.supervise run reply) how) m (some s) ∧
      Watched (w.runJob (House.behaviour program) s (.supervise run reply) how) (some s) := by
  obtain ⟨apart, _, _, _, found, abreast⟩ := watched
  cases found.symm.trans at_work
  let turn := (House.behaviour program).resume w.view w.shared (.supervise run reply) how
  obtain ⟨next, answer, job, goes⟩ :=
    House.supervise_cases (M := State) w.shared w.view.now run (reply.getD how.reply)
  have crew : Crewed (w.seat s turn.1 turn.2.1) m (some s) := crewed.seat_run apart _ _
  have seated : (w.seat s turn.1 turn.2.1).post s =
      some (.job (.supervise next answer), ending) := by
    rw [seat_post, if_pos rfl, at_work]
    exact congrArg (fun j => some (Work.job j, ending)) job
  rcases goes with ⟨e, finishes⟩ | ⟨rests, goes⟩
  · obtain ⟨v, same, filed, eq⟩ := runJob_finishes (House.behaviour program) w s
      (.supervise run reply) how finishes
    rw [eq]
    refine ⟨(crew.still same (filed.plain crew.plain)).finish s e,
      apart, next, answer, some e, ?_, nofun⟩
    rw [finishTask_post, if_pos rfl, same.kept seated]
    rfl
  · obtain ⟨same, plain⟩ := runJob_rests (House.behaviour program) w s
      (.supervise run reply) how rests
    refine ⟨crew.still same (plain crewed.plain),
      apart, next, answer, ending, same.kept seated, fun alive => ?_⟩
    rw [same.shared]
    exact goes (abreast alive)

theorem crew_comes {e : Entry Empty} (crewed : Crewed w m run) (watched : Watched w run)
    (comes : Comes (House.behaviour program) w e v) (plain : e.Plain) :
    (Crewed v m run ∧ Watched v run) ∨ ∃ u how, Crewed u m run ∧ Watched u run ∧ how.Plain ∧
      v = u.runJob (House.behaviour program) 0 (.main m) how := by
  cases comes with
  | books still filed => exact .inl ⟨crewed.still still (filed.plain crewed.plain), watched.still still⟩
  | delivers cargo => exact cargo.elim
  | closes => exact .inl ⟨crewed.staged _, watched.staged _⟩
  | ends f still filed waits =>
    exact .inl ⟨(crewed.still still (filed.plain crewed.plain)).finish _ f,
      (watched.still still).finish_waiter waits f⟩
  | @turns u t j ending how still filed at_work told =>
    have standing := crewed.still still (filed.plain crewed.plain)
    have watching := watched.still still
    have heard : how.Plain := by
      rcases told with heard | rfl
      · exact heard
      · exact plain
    obtain ⟨ended, mission⟩ := standing.mission
    by_cases first : t = 0
    · subst first
      cases at_work.symm.trans mission
      exact .inr ⟨u, how, standing, watching, heard, rfl⟩
    · by_cases other : some t = run
      · subst other
        obtain ⟨_, run, reply, _, found, _⟩ := id watching
        cases at_work.symm.trans found
        exact .inl (run_turn how standing watching at_work)
      · cases standing.others t _ _ first other at_work

end Mission
end Quadruped
