import Quadruped.Proofs.Session.Crew

/-!
How a mission waits for its supervisor. It starts the run, hears at once which task that is, and from
then on looks at that task and at the status, until it finds the task ended or the status active.
-/
namespace Quadruped.Mission

open Schedule World

variable {w v : World House (Job State) Empty} {m : State} {run : Option Nat}

/-- How far the waiting has come. -/
inductive Waiting (w : World House (Job State) Empty) : Prop where
  | fresh {m : State} (crewed : Crewed w m none) (watched : Watched w none)
      (opening : m.activity = .opening)
  | told {m : State} {s : Nat} {rest : List (Entry Empty)}
      (news : w.current = .proceed 0 (.started s) :: rest)
      (crewed : Crewed { w with current := rest } m (some s)) (watched : Watched w (some s))
      (opened : m.activity = .opened)
  | rising {m : State} (crewed : Crewed w m (some m.runTask)) (watched : Watched w (some m.runTask))
      (rising : m.activity = .rising)
  | past {m : State} {ending : Option (Ending Float)}
      (mission : w.post 0 = some (.job (.main m), ending)) (late : ¬ Early m)

theorem past_kept : Kept (House.behaviour program) fun w : World House (Job State) Empty =>
    ∃ m ending, w.post 0 = some (.job (.main m), ending) ∧ ¬ Early m where
  still same := fun ⟨m, ending, mission, late⟩ => ⟨m, ending, same.kept mission, late⟩
  ends {w t ending} e at_work := by
    rintro ⟨m, ended, mission, late⟩
    have other : t ≠ 0 := by
      rintro rfl
      cases at_work.symm.trans mission
    exact ⟨m, ended, by rw [finishTask_post, if_neg other]; exact mission, late⟩
  runs {w t j ending} how at_work := by
    rintro ⟨m, ended, mission, late⟩
    obtain ⟨⟨e, own⟩, others⟩ := runJob_post (House.behaviour program) how at_work
    by_cases first : t = 0
    · subst first
      cases at_work.symm.trans mission
      exact ⟨_, e, own, (program_quiet w.view w.shared how late).goes⟩
    · exact ⟨m, ended, others 0 _ (Ne.symm first) mission, late⟩

theorem Crewed.passes {how : Wake} (crewed : Crewed w m run)
    (turn : Program.QuietTurn Early w.shared (program w.view w.shared m how)) :
    Waiting (w.runJob (House.behaviour program) 0 (.main m) how) := by
  obtain ⟨ending, mission⟩ := crewed.mission
  obtain ⟨⟨e, own⟩, _⟩ := runJob_post (House.behaviour program) how mission
  exact .past own turn.goes

theorem rise_waits {s : Nat} {how : Wake} (crewed : Crewed w m (some s))
    (watched : Watched w (some s))
    (looks : program w.view w.shared m how = rise w.view w.shared { m with runTask := s }) :
    Waiting (w.runJob (House.behaviour program) 0 (.main m) how) := by
  rcases rise_cases w.view w.shared { m with runTask := s } with ⟨_, _, again⟩ | ⟨_, turn⟩
  · let n : State := { m with runTask := s, activity := .rising }
    have waits : program w.view w.shared m how = (w.shared, n, .sleep 0.05) := looks.trans again
    have resumed : (House.behaviour program).resume w.view w.shared (.main m) how =
        (w.shared, .main n, .sleep 0.05) := by
      simp only [House.behaviour, House.resume, waits]
    obtain ⟨same, plain⟩ := runJob_rests (House.behaviour program) w 0 (.main m) how
      (by rw [resumed]; trivial)
    rw [resumed] at same
    exact .rising ((crewed.seat_mission w.shared n).still same (plain crewed.plain))
      ((watched.seat_mission n).still same) rfl
  · rw [← looks] at turn
    exact crewed.passes turn

theorem opening_waits {how : Wake} (crewed : Crewed w m none) (watched : Watched w none)
    (opening : m.activity = .opening) (heard : how.Plain) :
    Waiting (w.runJob (House.behaviour program) 0 (.main m) how) := by
  cases how with
  | started s => exact False.elim heard
  | cancelled => exact crewed.passes (cancel_quiet w.shared m)
  | raised why => exact crewed.passes (fail_quiet w.shared m why)
  | go =>
    let n : State := { m with activity := .opened }
    let job : Job State := .supervise (.ready m.interface) none
    have resumed : (House.behaviour program).resume w.view w.shared (.main m) .go =
        (w.shared, .main n, .start job) := by
      simp only [House.behaviour, House.resume, program, resume, opening]
      rfl
    obtain ⟨v, same, filed, eq⟩ := runJob_starts (House.behaviour program) w 0 (.main m) .go
      (congrArg (fun turn => turn.2.2) resumed)
    rw [resumed] at same filed
    have seated : Crewed (w.seat 0 w.shared (.main n)) n none := crewed.seat_mission w.shared n
    have crew : Crewed v n none := seated.still same (filed.plain seated.plain)
    have standing : Watched (w.seat 0 w.shared (.main n)) none := watched
    have rising : v.shared.supervisor.Rising := standing.still same
    rw [eq]
    refine .told (m := n) rfl (crew.add job)
      ⟨crew.size_ne_zero, .ready m.interface, none, none, ?_, ?_⟩ rfl
    · exact (addTask_post v _ _ _).trans (if_pos rfl)
    · exact fun _ => rising

theorem rising_waits {how : Wake} (crewed : Crewed w m (some m.runTask))
    (watched : Watched w (some m.runTask)) (rising : m.activity = .rising) (heard : how.Plain) :
    Waiting (w.runJob (House.behaviour program) 0 (.main m) how) := by
  cases how with
  | started s => exact False.elim heard
  | cancelled => exact crewed.passes (cancel_quiet w.shared m)
  | raised why => exact crewed.passes (fail_quiet w.shared m why)
  | go =>
    have looks : program w.view w.shared m .go = rise w.view w.shared m := by
      simp only [program, resume, rising]
    exact rise_waits crewed watched looks

theorem entry_waits {e : Entry Empty} {rest : List (Entry Empty)}
    (head : w.current = e :: rest) (crewed : Crewed w m run) (watched : Watched w run)
    (same : ∀ v, Crewed v m run → Watched v run → Waiting v)
    (turn : ∀ v how, Crewed v m run → Watched v run → how.Plain →
      Waiting (v.runJob (House.behaviour program) 0 (.main m) how)) :
    Waiting (World.process (House.behaviour program) { w with current := rest } e) := by
  obtain ⟨plain, later⟩ := crewed.plain.pop head
  have popped : Crewed { w with current := rest } m run :=
    crewed.still (.of_tasks rfl rfl rfl) later
  have watching : Watched { w with current := rest } run := watched.still (.of_tasks rfl rfl rfl)
  rcases crew_comes popped watching (process_comes _ e) plain with
    ⟨crew, watch⟩ | ⟨v, how, crew, watch, heard, eq⟩
  · exact same _ crew watch
  · rw [eq]
    exact turn v how crew watch heard

theorem Crewed.between (crewed : Crewed w m run) (watched : Watched w run) :
    Crewed w.betweenRounds m run ∧ Watched w.betweenRounds run := by
  obtain ⟨stage, same⟩ := w.betweenRounds_still
  exact ⟨(crewed.staged stage).still same (betweenRounds_plain crewed.plain),
    (watched.staged stage).still same⟩

theorem advance_waits (before : Waiting w) : Waiting (w.advance (House.behaviour program)) := by
  cases before with
  | fresh crewed watched opening =>
    unfold World.advance
    split
    · obtain ⟨crew, watch⟩ := crewed.between watched
      exact .fresh crew watch opening
    · rename_i e rest head
      exact entry_waits head crewed watched (fun _ crew watch => .fresh crew watch opening)
        fun _ _ crew watch heard => opening_waits crew watch opening heard
  | @told m s rest news crewed watched opened =>
    obtain ⟨ending, mission⟩ := crewed.mission
    unfold World.advance
    rw [news]
    dsimp only [World.process]
    rw [drive_job mission]
    exact rise_waits crewed (watched.still (.of_tasks rfl rfl rfl))
      (by simp only [program, resume, opened])
  | rising crewed watched rising =>
    unfold World.advance
    split
    · obtain ⟨crew, watch⟩ := crewed.between watched
      exact .rising crew watch rising
    · rename_i e rest head
      exact entry_waits head crewed watched (fun _ crew watch => .rising crew watch rising)
        fun _ _ crew watch heard => rising_waits crew watch rising heard
  | past mission late =>
    obtain ⟨m, ending, mission, late⟩ := past_kept.advance (fun _ cargo => cargo.elim)
      (fun _ _ before => before) ⟨_, _, mission, late⟩
    exact .past mission late

theorem interruptRun_waits (before : Waiting w) : Waiting w.interruptRun := by
  have same := w.interruptRun_still
  have filed := w.interruptRun_filed
  cases before with
  | fresh crewed watched opening =>
    exact .fresh (crewed.still same (filed.plain crewed.plain)) (watched.still same) opening
  | @told m s rest news crewed watched opened =>
    have popped : Still { w with current := rest } { w.interruptRun with current := rest } :=
      ⟨same.shared, same.stage, same.posts⟩
    have shelved : w.interruptRun.Shelved := filed.shelved ⟨crewed.plain.queue, crewed.plain.timers⟩
    exact .told (filed.current.trans news)
      (crewed.still popped ⟨⟨shelved.queue, shelved.timers⟩, crewed.plain.round⟩)
      (watched.still same) opened
  | rising crewed watched rising =>
    exact .rising (crewed.still same (filed.plain crewed.plain)) (watched.still same) rising
  | past mission late => exact .past (same.kept mission) late

theorem ofJob_waits {h : House} (rising : h.supervisor.Rising) (interface : String)
    (mission : Mission) (interruptAt : Option Float) :
    Waiting (World.ofJob h (.main (.ofMission interface mission)) interruptAt) := by
  refine .fresh (m := .ofMission interface mission) ⟨⟨none, rfl⟩, ?_, ⟨⟨?_, nofun⟩, nofun⟩⟩ rising rfl
  · intro t work ending apart _ at_work
    unfold World.ofJob at at_work
    rw [addTask_post] at at_work
    split at at_work
    · rename_i first
      exact absurd first apart
    · simp [post] at at_work
  · intro e inside
    rw [List.mem_singleton.mp inside]
    trivial

theorem leads_waits (run : Leads (House.behaviour program) w v) (before : Waiting w) :
    Waiting v := by
  induction run with
  | here => exact before
  | advances _ _ ih => exact advance_waits ih
  | stops _ _ ih => exact interruptRun_waits ih

/-- The mission looks at its supervisor: it has just heard which task runs it, or has slept since it
last looked. -/
inductive Looks (w : World House (Job State) Empty) : State → Wake → Prop where
  | first {m : State} {ending : Option (Ending Float)} {how : Wake} {rest : List (Entry Empty)}
      (mission : w.post 0 = some (.job (.main m), ending)) (opened : m.activity = .opened)
      (next : w.current = .proceed 0 how :: rest) : Looks w m how
  | again {m : State} {ending : Option (Ending Float)}
      (mission : w.post 0 = some (.job (.main m), ending)) (rising : m.activity = .rising) :
      Looks w m .go

def State.taskAt (m : State) : Wake → Nat
  | .started t => t
  | _ => m.runTask

theorem Waiting.stands {ending : Option (Ending Float)} (waiting : Waiting w)
    (mission : w.post 0 = some (.job (.main m), ending)) :
    m.activity = .opening ∨
      (m.activity = .opened ∧ ∃ s rest, w.current = .proceed 0 (.started s) :: rest ∧
        Watched w (some s)) ∨
      (m.activity = .rising ∧ Watched w (some m.runTask)) ∨ ¬ Early m := by
  cases waiting with
  | fresh crewed _ opening =>
    obtain ⟨_, found⟩ := crewed.mission
    cases found.symm.trans mission
    exact .inl opening
  | told news crewed watched opened =>
    obtain ⟨_, found⟩ := crewed.mission
    cases found.symm.trans mission
    exact .inr (.inl ⟨opened, _, _, news, watched⟩)
  | rising crewed watched rising =>
    obtain ⟨_, found⟩ := crewed.mission
    cases found.symm.trans mission
    exact .inr (.inr (.inl ⟨rising, watched⟩))
  | past found late =>
    cases found.symm.trans mission
    exact .inr (.inr (.inr late))

theorem Waiting.looks {how : Wake} (waiting : Waiting w) (looks : Looks w m how) :
    Watched w (some (m.taskAt how)) ∧
      program w.view w.shared m how =
        rise w.view w.shared { m with runTask := m.taskAt how } := by
  cases looks with
  | first mission opened next =>
    rcases waiting.stands mission with opening | ⟨_, s, rest, news, watched⟩ | ⟨rising, _⟩ | late
    · cases opened.symm.trans opening
    · cases news.symm.trans next
      exact ⟨watched, by simp only [program, resume, opened, State.taskAt]⟩
    · cases opened.symm.trans rising
    · exact absurd (by simp [Early, opened]) late
  | again mission rising =>
    rcases waiting.stands mission with opening | ⟨opened, _⟩ | ⟨_, watched⟩ | late
    · cases rising.symm.trans opening
    · cases rising.symm.trans opened
    · have looked : program w.view w.shared m .go = rise w.view w.shared m := by
        simp only [program, resume, rising]
      exact ⟨watched, looked⟩
    · exact absurd (by simp [Early, rising]) late

/-- At every look, whatever has failed before: the mission waits on exactly while the run goes on and
the status is not active. That is before the first tick, or in failsafe. -/
theorem mission_waits_before_first_tick_or_in_failsafe (timing : Timing Float)
    (dispatch : Dispatch Float) (runner : Runner Float) (listeners : List Listener)
    (rig : Rig Float) (interface : String) (mission : Mission) (interruptAt : Option Float)
    {w : World House (Job State) Empty} {m : State} {how : Wake}
    (reached : Leads (House.behaviour program)
      (World.ofJob (.ofBench ⟨.create timing dispatch runner listeners, rig⟩)
        (.main (.ofMission interface mission)) interruptAt) w)
    (looks : Looks w m how) :
    let s := w.shared.supervisor
    let turn := program w.view w.shared m how
    ∃ run reply ending, w.post (m.taskAt how) = some (.job (.supervise run reply), ending) ∧
      (ending = none →
        (s.activated = false ↔ s.status = .disconnected ∨ s.status = .starting) ∧
        (s.activated = true ↔ s.status = .active ∨ s.status = .failsafe)) ∧
      (turn.2.1.activity = .rising ↔
        ending = none ∧ (s.activated = false ∨ s.status = .failsafe)) ∧
      (turn.2.1.activity = .rising → turn.1 = w.shared ∧ turn.2.2 = .sleep 0.05) := by
  intro s turn
  have first := ofJob_waits (h := .ofBench ⟨.create timing dispatch runner listeners, rig⟩)
    ⟨rfl, .inl rfl⟩ interface mission interruptAt
  obtain ⟨⟨_, run, reply, ending, found, abreast⟩, looked⟩ := (leads_waits reached first).looks looks
  have ended : w.view.ended (m.taskAt how) = ending.isSome := hasEnded_post found
  have stands (alive : ending = none) : s.Rising ∨ s.Risen := (abreast alive).either
  refine ⟨run, reply, ending, found, ?_, ?_⟩
  · intro alive
    rcases stands alive with before | after
    · rcases before.status with status | status <;> simp [before.activated, status]
    · rcases after.status with status | status <;> simp [after.activated, status]
  rcases rise_cases w.view w.shared { m with runTask := m.taskAt how } with
    ⟨alive, waits, again⟩ | ⟨either, quiet⟩
  · have goes : ending = none := by
      rw [ended] at alive
      simpa using alive
    have again : turn = _ := looked.trans again
    rw [again]
    refine ⟨⟨fun _ => ⟨goes, ?_⟩, fun _ => rfl⟩, fun _ => ⟨rfl, rfl⟩⟩
    rcases stands goes with before | after
    · exact .inl before.activated
    · exact .inr (after.status.resolve_left waits)
  · rw [← looked] at quiet
    have leaves : turn.2.1.activity ≠ .rising := by
      intro rising
      exact quiet.goes (by simp [Early, turn, rising])
    refine ⟨⟨fun rising => absurd rising leaves, ?_⟩, fun rising => absurd rising leaves⟩
    rintro ⟨alive, unready⟩
    rcases either with done | active
    · rw [ended, alive] at done
      cases done
    · rcases stands alive with before | after
      · exact absurd active before.not_active
      · rcases unready with never | failed
        · cases after.activated.symm.trans never
        · cases active.symm.trans failed

def sleepsBesideRun (w : World House (Job State) Empty) : Bool :=
  match w.post 0 with
  | some (.job (.main ⟨_, _, .rising, task⟩), _) => !w.hasEnded task
  | _ => false

theorem looks_beside_run (sleeps : sleepsBesideRun w = true) :
    ∃ m, Looks w m .go ∧ m.activity = .rising ∧ w.hasEnded m.runTask = false := by
  unfold sleepsBesideRun at sleeps
  split at sleeps
  · rename_i mission
    exact ⟨_, .again mission rfl, rfl, by simpa using sleeps⟩
  · cases sleeps

theorem waits_again (rising : m.activity = .rising) (goes : w.hasEnded m.runTask = false)
    (other : w.shared.supervisor.status ≠ .active) :
    (program w.view w.shared m .go).2.1.activity = .rising := by
  rcases rise_cases w.view w.shared m with ⟨_, _, again⟩ | ⟨either, _⟩
  · simp only [program, resume, rising, again]
  · rcases either with done | active
    · cases goes.symm.trans done
    · exact absurd active other

theorem startup_is_waited_for :
    let timing : Timing Float := { Timing.standard with startupRepeats := 1 }
    let house : House :=
      .ofBench ⟨.create timing ⟨.standard, [], 0⟩ .standard [], .ofSimulator .standard .none⟩
    let first : World House (Job State) Empty :=
      World.ofJob house (.main (.ofMission "sim0" (.hold .sit .untilStopped))) none
    let early := first.run (House.behaviour program) 10
    let late := first.run (House.behaviour program) 29
    ∃ m n, Looks early m .go ∧ early.shared.supervisor.status = .starting ∧
      (program early.view early.shared m .go).2.1.activity = .rising ∧
      Looks late n .go ∧ late.shared.supervisor.status = .active ∧
      (program late.view late.shared n .go).2.1.activity ≠ .rising := by
  intro timing house first early late
  obtain ⟨m, looks_early, _, goes⟩ := looks_beside_run (w := early) (by decide +kernel)
  obtain ⟨n, looks_late, _, _⟩ := looks_beside_run (w := late) (by decide +kernel)
  have starting : early.shared.supervisor.status = .starting := by decide +kernel
  have fresh : early.shared.supervisor.activated = false := by decide +kernel
  have active : late.shared.supervisor.status = .active := by decide +kernel
  have activated : late.shared.supervisor.activated = true := by decide +kernel
  obtain ⟨_, _, ending, found, _, waits, _⟩ := mission_waits_before_first_tick_or_in_failsafe timing
    ⟨.standard, [], 0⟩ .standard [] (.ofSimulator .standard .none) "sim0" (.hold .sit .untilStopped)
    none (run_leads _ 10 first) looks_early
  obtain ⟨_, _, _, _, _, leaves, _⟩ := mission_waits_before_first_tick_or_in_failsafe timing
    ⟨.standard, [], 0⟩ .standard [] (.ofSimulator .standard .none) "sim0" (.hold .sit .untilStopped)
    none (run_leads _ 29 first) looks_late
  refine ⟨m, n, looks_early, starting, waits.mpr ⟨?_, .inl fresh⟩, looks_late, active, ?_⟩
  · have same := hasEnded_post found
    change early.hasEnded m.runTask = ending.isSome at same
    rw [goes] at same
    simpa using same.symm
  · intro rising
    rcases (leaves.mp rising).2 with never | failed
    · cases activated.symm.trans never
    · cases active.symm.trans failed

/-- Not only the startup: where the first tick fails before the mission looks, it finds failsafe and
waits on, although the status has been active and the run goes on. -/
theorem failed_first_tick_is_waited_for :
    let timing : Timing Float := { Timing.standard with controlPeriod := 0.2, startupRepeats := 0 }
    let house : House :=
      .ofBench ⟨.create timing ⟨.standard, [1], 0⟩ .standard [], .ofSimulator .standard .none⟩
    let first : World House (Job State) Empty :=
      World.ofJob house (.main (.ofMission "sim0" (.hold .sit (.lasting 0.1)))) none
    let w := first.run (House.behaviour program) 11
    Leads (House.behaviour program) first w ∧
      w.shared.supervisor.status = .failsafe ∧ w.shared.supervisor.activated = true ∧
      ∃ m, Looks w m .go ∧ w.hasEnded m.runTask = false ∧
        (program w.view w.shared m .go).2.1.activity = .rising := by
  intro timing house first w
  have failed : w.shared.supervisor.status = .failsafe := by decide +kernel
  obtain ⟨m, looks, rising, goes⟩ := looks_beside_run (w := w) (by decide +kernel)
  refine ⟨run_leads _ 11 first, failed, by decide +kernel, m, looks, goes, ?_⟩
  have other : w.shared.supervisor.status ≠ .active := by
    rw [failed]
    decide
  exact waits_again rising goes other

end Quadruped.Mission
