import Quadruped.Proofs.Supervisor.Undriven

/-!
The latch of a supervisor. A log keeps, of every tick that came as far as its send, the command that
it chose and what it handed to the robot. A posture that latches is handed over once for as many
ticks in a row as choose it, every other command by each tick that chooses it.
-/
namespace Quadruped

/-- A tick that has reached its send: its command, and what of it was handed to the robot. -/
structure Reached (R : Type) where
  command : Command R
  handed : List (Command R)
deriving DecidableEq, Repr

variable {R : Type}

def Command.Latches (c : Command R) : Prop := ∃ p, p.latches = true ∧ c = .posture p

namespace Reached

def Repeats (previous : Option (Command R)) (r : Reached R) : Prop :=
  r.command.Latches ∧ previous = some r.command

structure Obeys (previous : Option (Command R)) (r : Reached R) : Prop where
  silent : r.Repeats previous → r.handed = []
  sends : ¬ r.Repeats previous → r.handed = [r.command]

def last (previous : Option (Command R)) : List (Reached R) → Option (Command R)
  | [] => previous
  | r :: rest => last (some r.command) rest

def Follows (previous : Option (Command R)) : List (Reached R) → Prop
  | [] => True
  | r :: rest => r.Obeys previous ∧ Follows (some r.command) rest

section
variable {previous : Option (Command R)} {log before after block : List (Reached R)}
  {r : Reached R} {c : Command R}

theorem last_append (previous : Option (Command R)) (before after : List (Reached R)) :
    last previous (before ++ after) = last (last previous before) after := by
  induction before generalizing previous with
  | nil => rfl
  | cons r rest ih => exact ih (some r.command)

theorem follows_append :
    Follows previous (before ++ after) ↔
      Follows previous before ∧ Follows (last previous before) after := by
  induction before generalizing previous with
  | nil => simp [Follows, last]
  | cons r rest ih => simp [Follows, last, ih, and_assoc]

theorem last_eq (previous : Option (Command R)) (log : List (Reached R)) :
    last previous log = (log.getLast?.map (·.command)).or previous := by
  induction log generalizing previous with
  | nil => rfl
  | cons r rest ih =>
    rw [last, ih, List.getLast?_cons]
    cases rest.getLast? <;> rfl

theorem follows_again (follows : Follows (some c) block) (same : ∀ r ∈ block, r.command = c)
    (latches : c.Latches) : block.flatMap (·.handed) = [] := by
  induction block with
  | nil => rfl
  | cons r rest ih =>
    obtain ⟨first, others⟩ := List.forall_mem_cons.mp same
    obtain ⟨obeys, later⟩ := follows
    have silent := obeys.silent ⟨first ▸ latches, congrArg some first.symm⟩
    rw [first] at later
    rw [List.flatMap_cons, silent, ih later others, List.append_nil]

theorem follows_once (follows : Follows previous block) (some_tick : block ≠ [])
    (same : ∀ r ∈ block, r.command = c) (latches : c.Latches) (changes : previous ≠ some c) :
    block.flatMap (·.handed) = [c] := by
  cases block with
  | nil => exact absurd rfl some_tick
  | cons r rest =>
    obtain ⟨first, others⟩ := List.forall_mem_cons.mp same
    obtain ⟨obeys, later⟩ := follows
    have sends := obeys.sends fun repeats => changes (repeats.2.trans (congrArg some first))
    rw [first] at later sends
    rw [List.flatMap_cons, sends, follows_again later others latches, List.append_nil]

theorem follows_each (follows : Follows previous block) (free : ∀ r ∈ block, ¬ r.command.Latches) :
    block.flatMap (·.handed) = block.map (·.command) := by
  induction block generalizing previous with
  | nil => rfl
  | cons r rest ih =>
    obtain ⟨first, others⟩ := List.forall_mem_cons.mp free
    obtain ⟨obeys, later⟩ := follows
    have sends := obeys.sends fun repeats => first repeats.1
    rw [List.flatMap_cons, sends, ih later others, List.map_cons, List.singleton_append]

end

end Reached

namespace Supervisor

/-- The latch holds the posture of the last tick that reached its send, where that latches. -/
def LatchedBy (previous : Option (Command R)) (s : Supervisor R) : Prop :=
  ∀ p, s.latched = some p ↔ p.latches = true ∧ previous = some (.posture p)

theorem wire_latched (s : Supervisor R) (c : Command R) : (s.wire c).1.LatchedBy (some c) := by
  intro p
  cases c with
  | velocity v => simp [wire]
  | posture q =>
    unfold wire
    dsimp only
    split
    · rename_i latches
      constructor
      · intro same
        cases same
        exact ⟨latches, rfl⟩
      · rintro ⟨_, same⟩
        cases same
        rfl
    · rename_i free
      constructor
      · intro none_left
        cases none_left
      · rintro ⟨latches, same⟩
        cases same
        exact absurd latches free

theorem wire_holds {s : Supervisor R} {previous : Option (Command R)} {c : Command R}
    (latch : s.LatchedBy previous) :
    (s.wire c).2 = false ↔ c.Latches ∧ previous = some c := by
  cases c with
  | velocity v => simp [wire, Command.Latches]
  | posture p =>
    have holds := latch p
    unfold wire
    dsimp only
    split
    · rename_i latches
      have latching : (Command.posture p : Command R).Latches := ⟨p, latches, rfl⟩
      simp only [latches, true_and] at holds
      simp [latching, holds]
    · rename_i free
      simp only [Command.Latches, Bool.true_eq_false, false_iff, not_and]
      rintro ⟨q, latches, same⟩
      cases same
      exact absurd latches free

theorem latchedBy_of_kept {s t : Supervisor R} {previous : Option (Command R)}
    (latch : s.LatchedBy previous) (kept : t.latched = s.latched) : t.LatchedBy previous := by
  intro p
  rw [kept]
  exact latch p

theorem transition_latched (s : Supervisor R) (now : R) (new : Status) :
    (s.transition now new).1.latched = s.latched := by
  obtain ⟨activated, told, eq⟩ := s.transition_only now new
  rw [eq]

theorem settle_latched (s : Supervisor R) (m : Mode) : (s.settle m).1.latched = s.latched := by
  obtain ⟨mode, eq⟩ := s.settle_only m
  rw [eq]

variable [Scalar R]

theorem obey_latched (s : Supervisor R) (c : Call R) : (s.obey c).latched = s.latched := by
  obtain ⟨mode, runner, running, sampler, eq⟩ := s.obey_only c
  rw [eq]

theorem choose_latched (s : Supervisor R) (now : Instants R) :
    (s.choose now).state.latched = s.latched := by
  obtain ⟨runner, dispatch, eq⟩ := s.choose_only now
  rw [eq]

end Supervisor

namespace Supervisor

/-- A supervisor that is left after the ticks of a log, each of which obeyed the latch. -/
structure Logs (previous : Option (Command R)) (log : List (Reached R)) (s : Supervisor R) :
    Prop where
  follows : Reached.Follows previous log
  latch : s.LatchedBy (Reached.last previous log)

section
variable {s t : Supervisor R} {previous : Option (Command R)} {c : Command R}

theorem logs_nothing (latch : s.LatchedBy previous) (kept : t.latched = s.latched) :
    t.Logs previous [] :=
  ⟨trivial, latchedBy_of_kept latch kept⟩

theorem logs_one (latch : s.LatchedBy previous) (kept : t.latched = (s.wire c).1.latched) :
    t.Logs previous [⟨c, if (s.wire c).2 then [c] else []⟩] := by
  have holds := wire_holds (c := c) latch
  refine ⟨⟨⟨?_, ?_⟩, trivial⟩, latchedBy_of_kept (s.wire_latched c) kept⟩
  · intro repeats
    rw [holds.mpr repeats]
    rfl
  · intro changes
    cases needed : (s.wire c).2 with
    | true => rfl
    | false => exact absurd (holds.mp needed) changes

theorem Logs.trans {earlier later : List (Reached R)} (first : s.Logs previous earlier)
    (second : t.Logs (Reached.last previous earlier) later) :
    t.Logs previous (earlier ++ later) := by
  refine ⟨Reached.follows_append.mpr ⟨first.follows, second.follows⟩, ?_⟩
  rw [Reached.last_append]
  exact second.latch

end

/-- The log of one tick, of which so much was handed to the robot; a tick that fails before its send
is not in the log. -/
def reached [Scalar R] (s : Supervisor R) (now : Instants R) (handed : List (Command R)) :
    List (Reached R) :=
  match (s.choose now).result with
  | .ok choice => [⟨choice.command, handed⟩]
  | .error _ => []

end Supervisor

namespace Watch

variable [Scalar R]

def ticked (w : Watch R) : Deed R → List (Reached R)
  | .beginTick now =>
    w.supervisor.reached now
      (((w.beginTick now).underWay.drop w.underWay.length).map (·.command))
  | _ => []

def log (w : Watch R) : List (Deed R) → List (Reached R)
  | [] => []
  | d :: rest => w.ticked d ++ (w.step d).log rest

def sentByTicks (w : Watch R) : List (Deed R) → List (Command R)
  | [] => []
  | d :: rest =>
    ((w.step d).underWay.drop w.underWay.length).map (·.command) ++ (w.step d).sentByTicks rest

theorem beginTick_cases (w : Watch R) (now : Instants R) :
    (∃ why, (w.supervisor.choose now).result = .error why ∧
        w.beginTick now = { w with supervisor := (w.supervisor.choose now).state }) ∨
      ∃ choice, (w.supervisor.choose now).result = .ok choice ∧
        let wired := (w.supervisor.choose now).state.wire choice.command
        (wired.2 = true ∧ w.beginTick now = ⟨wired.1, w.underWay ++ [choice]⟩ ∨
          wired.2 = false ∧ w.beginTick now = ⟨(wired.1.settle choice.mode).1, w.underWay⟩) := by
  unfold beginTick
  cases chosen : (w.supervisor.choose now).result with
  | error why => exact .inl ⟨why, rfl, by simp [chosen]⟩
  | ok choice =>
    refine .inr ⟨choice, rfl, ?_⟩
    cases needed : ((w.supervisor.choose now).state.wire choice.command).2 with
    | true => exact .inl ⟨needed, by simp [chosen, needed]⟩
    | false => exact .inr ⟨needed, by simp [chosen, needed]⟩

variable {w : Watch R} {previous : Option (Command R)}

theorem beginTick_logs (latch : w.supervisor.LatchedBy previous) (now : Instants R) :
    (w.beginTick now).supervisor.Logs previous (w.ticked (.beginTick now)) := by
  have chose := w.supervisor.choose_latched now
  have chosen_latch := Supervisor.latchedBy_of_kept latch chose
  rcases w.beginTick_cases now with ⟨why, failed, eq⟩ | ⟨choice, chosen, ⟨needed, eq⟩ | ⟨held, eq⟩⟩
  · simp only [ticked, Supervisor.reached, failed, eq]
    exact Supervisor.logs_nothing latch chose
  · have logs := Supervisor.logs_one (c := choice.command) chosen_latch rfl
    simpa [ticked, Supervisor.reached, chosen, eq, needed] using logs
  · have settled := Supervisor.settle_latched
      ((w.supervisor.choose now).state.wire choice.command).1 choice.mode
    have logs := Supervisor.logs_one (c := choice.command) chosen_latch settled
    simpa [ticked, Supervisor.reached, chosen, eq, held] using logs

theorem step_logs (latch : w.supervisor.LatchedBy previous) (d : Deed R) :
    (w.step d).supervisor.Logs previous (w.ticked d) := by
  cases d with
  | call c => exact Supervisor.logs_nothing latch (w.supervisor.obey_latched c)
  | beginTick now => exact beginTick_logs latch now
  | endTick index reply =>
    refine Supervisor.logs_nothing latch ?_
    refine w.endTick_keeps index reply (P := fun s => s.latched = w.supervisor.latched) rfl ?_ ?_
    · exact fun _ _ kept => kept
    · exact fun s m kept => (s.settle_latched m).trans kept
  | fail m k why =>
    exact Supervisor.logs_nothing latch (Supervisor.transition_latched _ (m.told .failsafe) .failsafe)
  | windDown m e =>
    refine Supervisor.logs_nothing latch ?_
    change (Run.windDown m w.supervisor e).supervisor.latched = w.supervisor.latched
    rcases Run.windDown_cases m w.supervisor e with ⟨_, _, _, eq⟩ | ⟨_, _, _, eq⟩
    · rw [eq]; rfl
    · rw [eq]; exact Supervisor.transition_latched _ (m.told .stopped) .stopped
  | conclude m e =>
    exact Supervisor.logs_nothing latch (Supervisor.transition_latched _ (m.told .stopped) .stopped)

theorem ticked_sends (w : Watch R) (d : Deed R) :
    ((w.step d).underWay.drop w.underWay.length).map (·.command) =
      (w.ticked d).flatMap (·.handed) := by
  cases d with
  | beginTick now =>
    rcases w.beginTick_cases now with ⟨why, failed, eq⟩ | ⟨choice, chosen, _⟩
    · simp [step, ticked, Supervisor.reached, failed, eq]
    · simp [step, ticked, Supervisor.reached, chosen]
  | endTick index reply =>
    have fewer : (w.endTick index reply).underWay = w.underWay.eraseIdx index := by
      unfold endTick
      split <;> rfl
    have short : (w.underWay.eraseIdx index).length ≤ w.underWay.length :=
      List.length_eraseIdx_le _ _
    simp [step, ticked, fewer, List.drop_of_length_le short]
  | call | fail | windDown | conclude => simp [step, ticked]

theorem log_sends (w : Watch R) (deeds : List (Deed R)) :
    w.sentByTicks deeds = (w.log deeds).flatMap (·.handed) := by
  induction deeds generalizing w with
  | nil => rfl
  | cons d rest ih => rw [sentByTicks, ticked_sends, ih, log, List.flatMap_append]

theorem after_logs (latch : w.supervisor.LatchedBy previous) (deeds : List (Deed R)) :
    (w.after deeds).supervisor.Logs previous (w.log deeds) := by
  induction deeds generalizing w previous with
  | nil => exact ⟨trivial, latch⟩
  | cons d rest ih =>
    have first := step_logs latch d
    exact first.trans (ih first.latch)

end Watch
namespace Run

def Progress.ticked (p : Progress R) : List (Command R) :=
  (p.handed.filter (·.leg = .tick)).map (·.command)

structure Progress.Idle (s : Supervisor R) (p : Progress R) : Prop where
  latched : p.supervisor.latched = s.latched
  silent : p.ticked = []

variable {m : Moment R} {s : Supervisor R}

theorem Progress.Idle.after {p : Progress R} (idle : p.Idle s) (notes : List (Note R)) :
    (p.after notes).Idle s :=
  ⟨idle.latched, idle.silent⟩

theorem Progress.Idle.of_kept {t : Supervisor R} {p : Progress R} (idle : p.Idle t)
    (kept : t.latched = s.latched) : p.Idle s :=
  ⟨idle.latched.trans kept, idle.silent⟩

theorem windDown_idle (m : Moment R) (s : Supervisor R) (e : Ending R) :
    (windDown m s e).Idle s := by
  rcases windDown_cases m s e with ⟨_, run, request, eq⟩ | ⟨_, run, request, eq⟩
  · exact ⟨by rw [eq]; rfl, by simp [Progress.ticked, Progress.handed, request, run, Run.leg]⟩
  · refine ⟨?_, by simp [Progress.ticked, Progress.handed, request]⟩
    rw [eq]
    exact Supervisor.transition_latched _ (m.told .stopped) .stopped

theorem balance_idle (m : Moment R) (s : Supervisor R) (n : Nat) : (balance m s n).Idle s := by
  rcases balance_cases m s n with ⟨_, eq⟩ | ⟨left, _, _, eq⟩ | ⟨_, eq⟩
  · rw [eq]; exact ⟨rfl, rfl⟩
  · rw [eq]; exact ⟨rfl, rfl⟩
  · rw [eq]; exact windDown_idle m s _

theorem stand_idle (m : Moment R) (s : Supervisor R) (n : Nat) : (stand m s n).Idle s := by
  rcases stand_cases m s n with ⟨_, notes, eq⟩ | ⟨left, _, _, eq⟩ | ⟨_, eq⟩
  · rw [eq]; exact (balance_idle m s _).after notes
  · rw [eq]; exact ⟨rfl, rfl⟩
  · rw [eq]; exact windDown_idle m s _

theorem trip_idle (m : Moment R) (s : Supervisor R) (k : Keeper R) (why : Fault R) :
    (trip m s k why).Idle s :=
  ⟨Supervisor.transition_latched _ (m.told .failsafe) .failsafe, rfl⟩

theorem conclude_idle (m : Moment R) (s : Supervisor R) (e : Ending R) : (conclude m s e).Idle s :=
  ⟨Supervisor.transition_latched s (m.told .stopped) .stopped, rfl⟩

variable [Scalar R]

theorem idle_turn {run : Run R} {reply : Reply R} {p : Progress R}
    (idle : ticksFrom m s run reply = none) (turn : Turn m s run reply p) : p.Idle s := by
  cases turn with
  | begins | neverBegins | staysOver | dwells | paces | leaves | abandons => exact ⟨rfl, rfl⟩
  | connects i notes =>
    have stands := stand_idle m (s.transition (m.told .starting) .starting).1
    exact (((stands _).of_kept (s.transition_latched (m.told .starting) .starting)).after _).after notes
  | stands n => exact stand_idle m s n
  | balances p n h => exact balance_idle m s n
  | halts notes =>
    have active := s.transition_latched (m.told .active) .active
    rcases activate_without_tick idle with ⟨e, eq⟩ | ⟨e, more, eq⟩
    · rw [eq]; exact (windDown_idle m s e).after notes
    · rw [eq]; exact (((windDown_idle m _ e).of_kept active).after more).after notes
  | sent choice k notes => exact ⟨Supervisor.settle_latched _ choice.mode, rfl⟩
  | trips choice k why => exact trip_idle m s k why
  | ticks k =>
    unfold ticksFrom at idle
    cases running : s.running with
    | false =>
      simp only [nextTick, running]
      exact windDown_idle m s .returned
    | true => simp [running] at idle
  | parkingFails e why => exact (conclude_idle m s e).after _
  | concludes e => exact conclude_idle m s e
  | leavingFails e why => exact (conclude_idle m s e).after _
  | closes run reply e notes h failed => exact (windDown_idle m s e).after notes

theorem ticksFrom_latched {run : Run R} {reply : Reply R} {t : Supervisor R}
    (ticks : ticksFrom m s run reply = some t) : t.latched = s.latched := by
  unfold ticksFrom at ticks
  split at ticks
  · split at ticks
    · cases ticks; rfl
    · cases ticks
  · dsimp only at ticks
    split at ticks
    · split at ticks
      · cases ticks
        exact s.transition_latched (m.told .active) .active
      · cases ticks
    · cases ticks
  · cases ticks

theorem nextTick_wires {k : Keeper R} {choice : Supervisor.Choice R} (running : s.running = true)
    (chosen : (s.choose m.plan).result = .ok choice) :
    let wired := (s.choose m.plan).state.wire choice.command
    (nextTick m s k).supervisor.latched = wired.1.latched ∧
      (nextTick m s k).ticked = if wired.2 then [choice.command] else [] := by
  intro wired
  cases needed : wired.2 with
  | true =>
    simp [nextTick, beginTick, running, chosen, wired, needed, Progress.ticked, Progress.handed,
      Run.leg]
  | false =>
    have settled := wired.1.settle_latched choice.mode
    simp [nextTick, beginTick, running, chosen, wired, needed, Progress.ticked, Progress.handed,
      settleTick, pace, settled]

theorem nextTick_logs {k : Keeper R} {previous : Option (Command R)} (latch : s.LatchedBy previous)
    (running : s.running = true) :
    (nextTick m s k).supervisor.Logs previous (s.reached m.plan (nextTick m s k).ticked) ∧
      (nextTick m s k).ticked =
        (s.reached m.plan (nextTick m s k).ticked).flatMap (·.handed) := by
  have kept := Supervisor.latchedBy_of_kept latch (s.choose_latched m.plan)
  unfold Supervisor.reached
  cases chosen : (s.choose m.plan).result with
  | error why =>
    obtain ⟨notes, eq⟩ := nextTick_fails (k := k) running chosen
    rw [eq]
    exact ⟨Supervisor.logs_nothing kept (trip_idle m _ k why).latched, rfl⟩
  | ok choice =>
    obtain ⟨latched, handed⟩ := nextTick_wires (k := k) running chosen
    rw [handed]
    exact ⟨Supervisor.logs_one kept latched, by simp⟩

end Run

namespace Course

variable [Scalar R]

def ticked (c : Course R) : Event R → List (Reached R)
  | .answer m reply =>
    match Run.ticksFrom m c.supervisor c.run reply with
    | some s => s.reached m.plan (c.run.resume m c.supervisor reply).ticked
    | none => []
  | _ => []

def log (c : Course R) : List (Event R) → List (Reached R)
  | [] => []
  | e :: rest => c.ticked e ++ (c.step e).log rest

def sentByTicks (c : Course R) : List (Command R) :=
  (c.handed.filter (·.leg = .tick)).map (·.command)

variable {c : Course R} {previous : Option (Command R)}

theorem answer_logs (latch : c.supervisor.LatchedBy previous) (m : Run.Moment R) (reply : Reply R) :
    (c.run.resume m c.supervisor reply).supervisor.Logs previous (c.ticked (.answer m reply)) ∧
      (c.run.resume m c.supervisor reply).ticked =
        (c.ticked (.answer m reply)).flatMap (·.handed) := by
  cases ticks : Run.ticksFrom m c.supervisor c.run reply with
  | none =>
    have idle := Run.idle_turn ticks (Run.resume_turn m c.supervisor c.run reply)
    simp only [ticked, ticks]
    exact ⟨Supervisor.logs_nothing latch idle.latched, idle.silent⟩
  | some s =>
    obtain ⟨⟨k, notes, eq⟩, running, _⟩ := Run.tick_turn ticks
    have begun := Supervisor.latchedBy_of_kept latch (Run.ticksFrom_latched ticks)
    simp only [ticked, ticks, eq]
    exact Run.nextTick_logs begun running

theorem step_logs (latch : c.supervisor.LatchedBy previous) (e : Event R) :
    (c.step e).supervisor.Logs previous (c.ticked e) ∧
      (c.step e).sentByTicks = c.sentByTicks ++ (c.ticked e).flatMap (·.handed) := by
  have unsent : c.sentByTicks = c.sentByTicks ++ [] := (List.append_nil _).symm
  cases e with
  | call k => exact ⟨Supervisor.logs_nothing latch (c.supervisor.obey_latched k), unsent⟩
  | upset r => exact ⟨Supervisor.logs_nothing latch rfl, unsent⟩
  | answer m reply =>
    obtain ⟨logs, sent⟩ := answer_logs latch m reply
    refine ⟨logs, ?_⟩
    rw [← sent]
    simp [sentByTicks, step, Run.Progress.ticked]

theorem after_logs (latch : c.supervisor.LatchedBy previous) (events : List (Event R)) :
    (c.after events).supervisor.Logs previous (c.log events) ∧
      (c.after events).sentByTicks = c.sentByTicks ++ (c.log events).flatMap (·.handed) := by
  induction events generalizing c previous with
  | nil => exact ⟨⟨trivial, latch⟩, (List.append_nil _).symm⟩
  | cons e rest ih =>
    obtain ⟨first, sent⟩ := step_logs latch e
    obtain ⟨later, more⟩ := ih first.latch
    refine ⟨first.trans later, ?_⟩
    rw [after_cons, more, sent, log, List.flatMap_append, List.append_assoc]

end Course
namespace Supervisor

/-- Of the ticks of a new supervisor, taken by hand or by a run, each hands its command to the
robot, but for one whose command latches and is that of the tick before it. So a posture that latches
goes out once for as many ticks in a row as choose it, and every other command goes out on every
tick. -/
theorem latched_posture_goes_out_once [Scalar R] (timing : Timing R) (dispatch : Dispatch R)
    (runner : Runner R) (listeners : List Listener) (deeds : List (Deed R)) (interface : String)
    (events : List (Event R)) :
    let w := Watch.fresh timing dispatch runner listeners
    let c := Course.begin (w.after deeds).supervisor interface
    let log := w.log deeds ++ c.log events
    (∀ before r after, log = before ++ r :: after →
        let repeats := r.command.Latches ∧ before.getLast?.map (·.command) = some r.command
        (repeats → r.handed = []) ∧ (¬ repeats → r.handed = [r.command])) ∧
      (∀ before block after command, log = before ++ (block ++ after) → block ≠ [] →
        (∀ r ∈ block, r.command = command) → before.getLast?.map (·.command) ≠ some command →
          (command.Latches → block.flatMap (·.handed) = [command]) ∧
            (¬ command.Latches → block.flatMap (·.handed) = block.map (·.command))) ∧
      w.sentByTicks deeds ++ (c.after events).sentByTicks = log.flatMap (·.handed) := by
  intro w c log
  have unlatched : w.supervisor.LatchedBy none := by
    intro p
    constructor
    · intro held
      cases held
    · rintro ⟨_, none_before⟩
      cases none_before
  have byHand := Watch.after_logs unlatched deeds
  obtain ⟨byRun, sent⟩ := Course.after_logs (c := c) byHand.latch events
  have follows : Reached.Follows none log := (byHand.trans byRun).follows
  have part {before rest : List (Reached R)} (split : log = before ++ rest) :
      Reached.Follows (before.getLast?.map (·.command)) rest := by
    rw [split, Reached.follows_append, Reached.last_eq, Option.or_none] at follows
    exact follows.2
  refine ⟨?_, ?_, ?_⟩
  · intro before r after split repeats
    obtain ⟨obeys, _⟩ := part split
    exact ⟨obeys.silent, obeys.sends⟩
  · intro before block after command split some_tick same changes
    have obeys := (Reached.follows_append.mp (part split)).1
    refine ⟨fun latches => Reached.follows_once obeys some_tick same latches changes, ?_⟩
    intro free
    exact Reached.follows_each obeys fun r member latches => free (same r member ▸ latches)
  · rw [Watch.log_sends, sent, List.flatMap_append]
    rfl

/-- Two ticks choose to sit, and the send of the first fails. The run that follows rises, also in
two ticks; a failure of the next one brings it into failsafe, where every tick sends a stop. -/
theorem failed_sit_goes_out_once :
    let timing : Timing Float := { Timing.standard with startupRepeats := 0 }
    let deeds : List (Deed Float) :=
      [.call (.setMode (.holding .sit)), .beginTick (.frozen 0), .endTick 0 (.raised (.breakdown .send)),
        .beginTick (.frozen 1), .call (.setMode (.holding .riseSit))]
    let answered (now : Float) : Event Float := .answer (.frozen now true) .ok
    let events : List (Event Float) :=
      [answered 0, answered 0, answered 1, answered 2, answered 3, answered 4, answered 5,
        answered 6, answered 7]
    let w := Watch.fresh timing ⟨.standard, [5], 0⟩ .standard [.recorder]
    let c := Course.begin (w.after deeds).supervisor "sim0"
    let sits : List (Reached Float) := [⟨.posture .sit, [.posture .sit]⟩, ⟨.posture .sit, []⟩]
    let rises : List (Reached Float) :=
      [⟨.posture .riseSit, [.posture .riseSit]⟩, ⟨.posture .riseSit, []⟩]
    let stops : List (Reached Float) := [⟨.stop, [.stop]⟩, ⟨.stop, [.stop]⟩]
    w.log deeds ++ c.log events = sits ++ (rises ++ stops) ∧
      rises.flatMap (·.handed) = [.posture .riseSit] ∧
      w.sentByTicks deeds ++ (c.after events).sentByTicks =
        [.posture .sit, .posture .riseSit, .stop, .stop] := by
  intro timing deeds answered events w c sits rises stops
  have log : w.log deeds ++ c.log events = sits ++ (rises ++ stops) := by decide +kernel
  obtain ⟨_, once, sent⟩ := latched_posture_goes_out_once timing ⟨.standard, [5], 0⟩ .standard
    [.recorder] deeds "sim0" events
  have rising := (once sits rises stops (.posture .riseSit) log (by simp [rises]) (by simp [rises])
    (by simp [sits])).1 ⟨.riseSit, rfl, rfl⟩
  refine ⟨log, rising, sent.trans ?_⟩
  rw [log]
  rfl

end Supervisor
end Quadruped
