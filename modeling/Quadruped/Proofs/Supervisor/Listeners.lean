import Quadruped.Proofs.Supervisor.Turn

/-!
Who listens makes no difference to a run. A supervisor with one quiet listener stands for all others:
with other listeners every operation does the same, except that each change is told to each of them.
-/
namespace Quadruped

variable {R : Type}

namespace Outcome

variable {σ τ α β : Type}

theorem andThen_within {put : σ → τ} {o : Outcome R σ α} {next : σ → α → Outcome R σ β}
    (other : τ → α → Outcome R τ β) (agree : ∀ s a, other (put s) a = (next s a).within put) :
    (o.within put).andThen other = (o.andThen next).within put := by
  unfold andThen
  cases given : o.result with
  | error why => simp only [within_result, given]; rfl
  | ok a => simp only [within_result, within_state, given, agree]; rfl

end Outcome

namespace Supervisor

def calls (count : Nat) (change : Notice R) : List (Notice R) :=
  (List.range count).map fun i => { change with listener := i }

def heardBy (listeners : List Listener) (s : Supervisor R) : Supervisor R :=
  { s with listeners, told := s.told.flatMap (calls listeners.length) }

def Plain (s : Supervisor R) : Prop := s.listeners = [.recorder]

variable (l : List Listener) (s : Supervisor R)

theorem heardBy_transition (plain : s.Plain) (now : R) (new : Status) :
    ((s.heardBy l).transition now new).1 = (s.transition now new).1.heardBy l := by
  have count : s.listeners.length = 1 := congrArg List.length plain
  have told : (s.told ++ (List.range s.listeners.length).map (Notice.mk · now s.status new)).flatMap
      (calls l.length) =
      s.told.flatMap (calls l.length) ++
        (List.range l.length).map (Notice.mk · now s.status new) := by
    rw [count, List.flatMap_append]
    exact congrArg _ (List.append_nil _)
  unfold transition
  by_cases same : new = s.status
  · rw [if_pos same, if_pos (by exact same)]
  · rw [if_neg same, if_neg (by exact same)]
    simp only [heardBy, told]

theorem transition_plain (plain : s.Plain) (now : R) (new : Status) :
    (s.transition now new).1.Plain := by
  obtain ⟨_, _, eq⟩ := s.transition_only now new
  rw [eq]
  exact plain

theorem heardBy_setMode (m : Mode) :
    (s.heardBy l).setMode m = ((s.setMode m).1.heardBy l, (s.setMode m).2) := by
  unfold setMode
  dsimp only [Cell.swap]
  change (if s.mode.value = m then _ else _) = _
  split
  · rfl
  · change (if (decide (s.mode.value.kind = .autonomous) && decide (m.kind ≠ .autonomous)) = true
      then _ else _) = _
    split <;> rfl

variable [Scalar R]

theorem heardBy_startPlan (items : List (PlanItem R)) (heading : Option R) :
    (s.heardBy l).startPlan items heading = (s.startPlan items heading).within (heardBy l) := by
  unfold startPlan
  rw [← Outcome.andThen_within (fun s _ =>
    .ok (s.setMode .autonomous).1 () (s.setMode .autonomous).2)]
  · rfl
  · intro t _
    simp only [heardBy_setMode]
    rfl

theorem heardBy_obey (c : Call R) : (s.heardBy l).obey c = (s.obey c).heardBy l := by
  cases c with
  | setMode m => exact congrArg Prod.fst (s.heardBy_setMode l m)
  | startPlan items heading => exact congrArg Outcome.state (s.heardBy_startPlan l items heading)
  | cancelPlan => rfl
  | stop => rfl
  | hear p => rfl

theorem heardBy_tickPlan (now : Instants R) :
    (s.heardBy l).tickPlan now = (s.tickPlan now).within (heardBy l) := by
  unfold tickPlan
  change (if s.currentMode.kind = .autonomous then _ else _) = _
  split
  · rfl
  · change (if s.runner.phase = .cancelled then _ else _) = _
    split
    · rw [← Outcome.andThen_within (fun s _ => .ok s none [])]
      · rfl
      · exact fun _ _ => rfl
    · rfl

theorem heardBy_choose (now : Instants R) :
    (s.heardBy l).choose now = (s.choose now).within (heardBy l) := by
  unfold choose
  dsimp only
  rw [heardBy_tickPlan]
  apply Outcome.andThen_within
  intro t plan
  change (if t.status = .failsafe then _ else _) = _
  split
  · rfl
  · rw [← Outcome.andThen_within (fun t c => .ok t ⟨s.currentMode, c⟩ [])]
    · rfl
    · exact fun _ _ => rfl

omit [Scalar R] in
theorem heardBy_wire (c : Command R) :
    (s.heardBy l).wire c = ((s.wire c).1.heardBy l, (s.wire c).2) := by
  cases c with
  | velocity v => rfl
  | posture p =>
    unfold wire
    dsimp only
    split <;> rfl

omit [Scalar R] in
theorem heardBy_settle (m : Mode) :
    ((s.heardBy l).settle m).1 = (s.settle m).1.heardBy l := by
  unfold settle
  dsimp only
  by_cases leaves : (decide (m.kind = .autonomous) && s.runner.isFinished) = true
  · rw [if_pos leaves, if_pos (by exact leaves)]
    rfl
  · rw [if_neg leaves, if_neg (by exact leaves)]
    rfl

theorem plain_lasting : Lasting (Plain : Supervisor R → Prop) where
  runs _ _ plain := plain
  cancels _ plain := plain
  idles _ plain := plain
  changes s now new plain := s.transition_plain plain now new
  chooses s now plain := by
    obtain ⟨_, _, eq⟩ := s.choose_only now
    rw [eq]
    exact plain
  wires s c plain := by
    obtain ⟨_, eq⟩ := s.wire_only c
    rw [eq]
    exact plain
  records _ _ plain := plain
  settles s m plain := by
    obtain ⟨_, eq⟩ := s.settle_only m
    rw [eq]
    exact plain

theorem obey_plain {s : Supervisor R} (plain : s.Plain) (c : Call R) : (s.obey c).Plain := by
  obtain ⟨mode, runner, running, sampler, eq⟩ := s.obey_only c
  rw [eq]
  exact plain

end Supervisor

namespace Run

structure Progress.Alike (l : List Listener) (p q : Progress R) : Prop where
  supervisor : q.supervisor = p.supervisor.heardBy l
  run : q.run = p.run
  request : q.request = p.request

theorem Progress.Alike.after {l : List Listener} {p q : Progress R} (alike : p.Alike l q)
    (notes others : List (Note R)) : (p.after notes).Alike l (q.after others) :=
  ⟨alike.supervisor, alike.run, alike.request⟩

variable (l : List Listener) (m : Moment R) (s : Supervisor R)

theorem conclude_alike (plain : s.Plain) (e : Ending R) :
    (conclude m s e).Alike l (conclude m (s.heardBy l) e) :=
  ⟨s.heardBy_transition l plain (m.told .stopped) .stopped, rfl, rfl⟩

theorem windDown_alike (plain : s.Plain) (e : Ending R) :
    (windDown m s e).Alike l (windDown m (s.heardBy l) e) := by
  unfold windDown
  dsimp only
  refine .after ?_ _ _
  cases m.connected with
  | true => exact ⟨rfl, rfl, rfl⟩
  | false => exact conclude_alike l m s.stop.cancelPlan.1 plain e

theorem repeatPosture_alike (plain : s.Plain) (p : Posture) (left : Nat) :
    (repeatPosture m s p left).Alike l (repeatPosture m (s.heardBy l) p left) := by
  unfold repeatPosture
  change Progress.Alike l _ (if s.running = true then _ else _)
  cases s.running with
  | true => exact ⟨rfl, rfl, rfl⟩
  | false => exact windDown_alike l m s plain .returned

theorem balance_alike (plain : s.Plain) (n : Nat) :
    (balance m s n).Alike l (balance m (s.heardBy l) n) := by
  cases n with
  | zero => exact ⟨rfl, rfl, rfl⟩
  | succ left => exact repeatPosture_alike l m s plain .balanceStand left

theorem stand_alike (plain : s.Plain) (n : Nat) :
    (stand m s n).Alike l (stand m (s.heardBy l) n) := by
  cases n with
  | zero => exact (balance_alike l m s plain _).after _ _
  | succ left => exact repeatPosture_alike l m s plain .standUp left

theorem trip_alike (plain : s.Plain) (k : Keeper R) (why : Fault R) :
    (trip m s k why).Alike l (trip m (s.heardBy l) k why) :=
  ⟨Supervisor.heardBy_transition l { s.cancelPlan.1 with mode := s.mode.set .idle } plain
    (m.told .failsafe)
    .failsafe, rfl, rfl⟩

variable [Scalar R]

theorem rouse_alike (plain : s.Plain) : (rouse m s).Alike l (rouse m (s.heardBy l)) := by
  have started := Supervisor.plain_lasting.changes s (m.told .starting) .starting plain
  unfold rouse
  dsimp only
  rw [s.heardBy_transition l plain]
  exact (stand_alike l m _ started _).after _ _

theorem settleTick_alike (choice : Supervisor.Choice R) (k : Keeper R) :
    (settleTick m s choice k).Alike l (settleTick m (s.heardBy l) choice k) :=
  ⟨s.heardBy_settle l choice.mode, rfl, rfl⟩

theorem beginTick_alike (plain : s.Plain) (k : Keeper R) :
    (beginTick m s k).Alike l (beginTick m (s.heardBy l) k) := by
  have chosen := Supervisor.plain_lasting.chooses s m.plan plain
  unfold beginTick
  simp only [Supervisor.heardBy_choose, Outcome.within_state, Outcome.within_result,
    Supervisor.heardBy_wire]
  cases (s.choose m.plan).result with
  | error why => exact (trip_alike l m _ chosen k why).after _ _
  | ok choice =>
    refine .after ?_ _ _
    cases ((s.choose m.plan).state.wire choice.command).2 with
    | true => exact ⟨rfl, rfl, rfl⟩
    | false => exact settleTick_alike l m _ choice k

theorem nextTick_alike (plain : s.Plain) (k : Keeper R) :
    (nextTick m s k).Alike l (nextTick m (s.heardBy l) k) := by
  unfold nextTick
  change Progress.Alike l _ (if s.running = true then _ else _)
  cases s.running with
  | true => exact beginTick_alike l m s plain k
  | false => exact windDown_alike l m s plain .returned

theorem activate_alike (plain : s.Plain) :
    (activate m s).Alike l (activate m (s.heardBy l)) := by
  have active := Supervisor.plain_lasting.changes s (m.told .active) .active plain
  unfold activate
  change Progress.Alike l _ (if s.running = true then _ else _)
  cases s.running with
  | false => exact windDown_alike l m s plain .returned
  | true =>
    dsimp only [if_true]
    rw [s.heardBy_transition l plain]
    refine .after ?_ _ _
    have timing : ((s.transition (m.told .active) .active).1.heardBy l).timing =
        (s.transition (m.told .active) .active).1.timing := rfl
    rw [timing]
    cases Keeper.create (s.transition (m.told .active) .active).1.timing.controlPeriod
      (s.transition (m.told .active) .active).1.timing.lagWarning m.opened with
    | error why => exact windDown_alike l m _ active (.raised why)
    | ok k => exact nextTick_alike l m _ active k

theorem resume_alike (plain : s.Plain) (run : Run R) (reply : Reply R) :
    (run.resume m s reply).Alike l (run.resume m (s.heardBy l) reply) := by
  have closes (e : Ending R) := windDown_alike l m s plain e
  have concludes (e : Ending R) := conclude_alike l m s plain e
  cases run with
  | ready i => cases reply <;> exact ⟨rfl, rfl, rfl⟩
  | connecting i =>
    cases reply with
    | ok => exact (rouse_alike l m s plain).after _ _
    | refused => exact (closes _).after _ _
    | raised | cancelled => exact closes _
  | rousing p n =>
    cases reply with
    | ok => exact ⟨rfl, rfl, rfl⟩
    | refused | raised | cancelled => exact closes _
  | dwelling p n =>
    cases reply with
    | ok =>
      cases p with
      | standUp => exact stand_alike l m s plain n
      | _ => exact balance_alike l m s plain n
    | refused | raised | cancelled => cases p <;> exact closes _
  | halting =>
    cases reply with
    | ok => exact (activate_alike l m s plain).after _ _
    | refused | raised | cancelled => exact closes _
  | sending choice k =>
    cases reply with
    | ok => exact (settleTick_alike l m (s.record choice.command).1 choice k).after _ _
    | raised why => exact trip_alike l m s plain k why
    | refused | cancelled => exact closes _
  | tripping k =>
    cases reply with
    | ok | raised => exact ⟨rfl, rfl, rfl⟩
    | refused | cancelled => exact closes _
  | pacing k =>
    cases reply with
    | ok => exact nextTick_alike l m s plain k
    | refused | raised | cancelled => exact closes _
  | parking e =>
    cases reply with
    | ok => exact ⟨rfl, rfl, rfl⟩
    | raised why => exact (concludes e).after _ _
    | refused | cancelled => exact ⟨rfl, rfl, rfl⟩
  | leaving e =>
    cases reply with
    | ok => exact concludes e
    | raised why => exact (concludes e).after _ _
    | refused | cancelled => exact ⟨rfl, rfl, rfl⟩
  | «over» e => cases reply <;> exact ⟨rfl, rfl, rfl⟩

end Run

namespace Course

variable [Scalar R]

def heardBy (l : List Listener) (c : Course R) : Course R :=
  { c with supervisor := c.supervisor.heardBy l }

theorem step_plain {c : Course R} (plain : c.supervisor.Plain) (e : Event R) :
    (c.step e).supervisor.Plain := by
  cases e with
  | call k => exact Supervisor.obey_plain plain k
  | upset r => exact plain
  | answer m reply =>
    exact Supervisor.plain_lasting.turn (Run.resume_turn m c.supervisor c.run reply) plain

theorem heardBy_step (l : List Listener) {c : Course R} (plain : c.supervisor.Plain) (e : Event R) :
    (c.heardBy l).step e = (c.step e).heardBy l := by
  cases e with
  | call k => exact congrArg (Course.mk · c.run c.handed) (c.supervisor.heardBy_obey l k)
  | upset r => rfl
  | answer m reply =>
    obtain ⟨supervisor, run, request⟩ := Run.resume_alike l m c.supervisor plain c.run reply
    have handed : (c.run.resume m (c.supervisor.heardBy l) reply).handed =
        (c.run.resume m c.supervisor reply).handed := by
      unfold Run.Progress.handed
      rw [request, run]
    change Course.mk (c.run.resume m (c.supervisor.heardBy l) reply).supervisor
      (c.run.resume m (c.supervisor.heardBy l) reply).run
      (c.handed ++ (c.run.resume m (c.supervisor.heardBy l) reply).handed) = _
    rw [supervisor, run, handed]
    rfl

theorem heardBy_after (l : List Listener) {c : Course R} (plain : c.supervisor.Plain)
    (events : List (Event R)) : (c.heardBy l).after events = (c.after events).heardBy l := by
  induction events generalizing c with
  | nil => rfl
  | cons e later ih => rw [after_cons, heardBy_step l plain, ih (step_plain plain e), after_cons]

end Course
end Quadruped
