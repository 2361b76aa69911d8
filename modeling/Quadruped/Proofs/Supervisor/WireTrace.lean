import Quadruped.Proofs.Supervisor.Turn

/-!
The order of the commands on the wire. A run that keeps its connection hands over its two startup
postures, each so many times, then the stop that ends the startup, then what its ticks choose, and
last the stop of its cleanup. It may be left after any of these; what is left out is always a tail of
the list before the last stop.
-/
namespace Quadruped

variable {R : Type}

/-- What a run has handed over before its cleanup. -/
structure Trace (R : Type) where
  stands : Nat
  balances : Nat
  halted : Bool
  ticks : List (Handed R)

namespace Trace

def startup (t : Trace R) : List (Handed R) :=
  List.replicate t.stands ⟨.startup, .posture .standUp⟩ ++
    (List.replicate t.balances ⟨.startup, .posture .balanceStand⟩ ++
      if t.halted then [⟨.halt, .stop⟩] else [])

def handed (t : Trace R) : List (Handed R) := t.startup ++ t.ticks

/-- So many repetitions of each startup posture are asked for; `driven` says when ticks may begin. -/
structure Ordered (t : Trace R) (repeats : Nat) (driven : Prop) : Prop where
  stands : t.stands ≤ repeats
  balances : t.balances ≤ repeats
  balanced : 0 < t.balances → t.stands = repeats
  halted : t.halted = true → t.stands = repeats ∧ t.balances = repeats
  ticks : ∀ h ∈ t.ticks, h.leg = .tick ∨ h = ⟨.failsafe, .stop⟩
  driven : t.ticks ≠ [] → t.halted = true ∧ driven

theorem startup_quiet {t : Trace R} {h : Handed R} (member : h ∈ t.startup) :
    h.leg ≠ .cleanup ∧ ∃ p, h.command = .posture p := by
  rcases List.mem_append.mp member with stand | later
  · rw [List.eq_of_mem_replicate stand]; exact ⟨by simp, _, rfl⟩
  · rcases List.mem_append.mp later with balance | halt
    · rw [List.eq_of_mem_replicate balance]; exact ⟨by simp, _, rfl⟩
    · split at halt
      · rw [List.mem_singleton.mp halt]; exact ⟨by simp, _, rfl⟩
      · cases halt

theorem halt_in_startup {t : Trace R} (halted : t.halted = true) :
    (⟨.halt, .stop⟩ : Handed R) ∈ t.startup := by
  unfold startup
  rw [if_pos halted]
  exact List.mem_append.mpr (.inr (List.mem_append.mpr (.inr (List.mem_singleton.mpr rfl))))

theorem Ordered.imp {t : Trace R} {repeats : Nat} {before after : Prop}
    (ordered : t.Ordered repeats before) (later : before → after) : t.Ordered repeats after :=
  { ordered with driven := fun some => (ordered.driven some).imp id later }

theorem Ordered.velocity_between {t : Trace R} {repeats : Nat} {driven : Prop}
    (ordered : t.Ordered repeats driven) {closing first rest : List (Handed R)} {h : Handed R}
    {v : Velocity R} (stops : ∀ g ∈ closing, g.command = .stop)
    (split : t.handed ++ closing = first ++ h :: rest) (velocity : h.command = .velocity v) :
    ⟨.halt, .stop⟩ ∈ first ∧ ∀ g ∈ first, g.leg ≠ .cleanup := by
  have not_startup : h ∉ t.startup := by
    intro member
    obtain ⟨_, p, posture⟩ := startup_quiet member
    rw [posture] at velocity
    cases velocity
  have not_closing : h ∉ closing := by
    intro member
    rw [stops h member] at velocity
    cases velocity
  obtain ⟨middle, front, back⟩ : ∃ middle, first = t.startup ++ middle ∧
      t.ticks ++ closing = middle ++ h :: rest := by
    rw [handed, List.append_assoc, List.append_eq_append_iff] at split
    rcases split with ⟨middle, front, back⟩ | ⟨cut, front, back⟩
    · exact ⟨middle, front, back⟩
    · cases cut with
      | nil => exact ⟨[], by simpa using front.symm, back.symm⟩
      | cons g cut =>
        cases back
        exact absurd (front ▸ by simp) not_startup
  obtain ⟨tail, ticks⟩ : ∃ tail, t.ticks = middle ++ h :: tail := by
    rcases List.append_eq_append_iff.mp back with ⟨cut, _, closing_eq⟩ | ⟨cut, ticks, tail_eq⟩
    · exact absurd (closing_eq ▸ by simp) not_closing
    · cases cut with
      | nil =>
        have closing_eq : h :: rest = closing := tail_eq
        exact absurd (closing_eq ▸ List.mem_cons_self) not_closing
      | cons g cut => cases tail_eq; exact ⟨cut, ticks⟩
  have some_tick : t.ticks ≠ [] := by simp [ticks]
  refine ⟨?_, ?_⟩
  · rw [front]
    exact List.mem_append_left _ (halt_in_startup (ordered.driven some_tick).1)
  · intro g member
    rw [front] at member
    rcases List.mem_append.mp member with early | late
    · exact (startup_quiet early).1
    · rcases ordered.ticks g (by simp [ticks, late]) with leg | tripped
      · rw [leg]; decide
      · rw [tripped]; simp

theorem Ordered.tick {t : Trace R} {repeats : Nat} {driven : Prop}
    (ordered : t.Ordered repeats driven) (halted : t.halted = true) (goes : driven)
    {h : Handed R} (ticked : h.leg = .tick ∨ h = ⟨.failsafe, .stop⟩) :
    { t with ticks := t.ticks ++ [h] }.Ordered repeats driven where
  stands := ordered.stands
  balances := ordered.balances
  balanced := ordered.balanced
  halted := ordered.halted
  ticks g member := by
    rcases List.mem_append.mp member with early | last
    · exact ordered.ticks g early
    · rw [List.mem_singleton.mp last]; exact ticked
  driven _ := ⟨halted, goes⟩

@[simp] theorem handed_tick (t : Trace R) (h : Handed R) :
    Trace.handed { t with ticks := t.ticks ++ [h] } = t.handed ++ [h] :=
  (List.append_assoc t.startup t.ticks [h]).symm

def standing (n : Nat) : Trace R := ⟨n, 0, false, []⟩

def balancing (repeats n : Nat) : Trace R := ⟨repeats, n, false, []⟩

def complete (repeats : Nat) : Trace R := ⟨repeats, repeats, true, []⟩

theorem startup_ordered {stands balances repeats : Nat} {halted : Bool} (driven : Prop)
    (stand : stands ≤ repeats) (balance : balances ≤ repeats)
    (balanced : 0 < balances → stands = repeats)
    (complete : halted = true → stands = repeats ∧ balances = repeats) :
    (⟨stands, balances, halted, []⟩ : Trace R).Ordered repeats driven where
  stands := stand
  balances := balance
  balanced := balanced
  halted := complete
  ticks h member := by cases member
  driven some := absurd rfl some

theorem standing_ordered {n repeats : Nat} (driven : Prop) (most : n ≤ repeats) :
    (standing n : Trace R).Ordered repeats driven :=
  startup_ordered driven most (Nat.zero_le _) (fun some => absurd some (Nat.lt_irrefl 0))
    (fun halt => by cases halt)

theorem balancing_ordered {n repeats : Nat} (driven : Prop) (most : n ≤ repeats) :
    (balancing repeats n : Trace R).Ordered repeats driven :=
  startup_ordered driven (Nat.le_refl _) most (fun _ => rfl) (fun halt => by cases halt)

theorem complete_ordered (repeats : Nat) (driven : Prop) :
    (complete repeats : Trace R).Ordered repeats driven :=
  startup_ordered driven (Nat.le_refl _) (Nat.le_refl _) (fun _ => rfl) (fun _ => ⟨rfl, rfl⟩)

theorem standing_handed_succ (n : Nat) : (standing (n + 1) : Trace R).handed =
    (standing n).handed ++ [⟨.startup, .posture .standUp⟩] := by
  simp [standing, handed, startup, List.replicate_succ']

theorem balancing_handed_zero (repeats : Nat) :
    (balancing repeats 0 : Trace R).handed = (standing repeats).handed := rfl

theorem balancing_handed_succ (repeats n : Nat) : (balancing repeats (n + 1) : Trace R).handed =
    (balancing repeats n).handed ++ [⟨.startup, .posture .balanceStand⟩] := by
  simp [balancing, handed, startup, List.replicate_succ']

theorem complete_handed (repeats : Nat) : (complete repeats : Trace R).handed =
    (balancing repeats repeats).handed ++ [⟨.halt, .stop⟩] := by
  simp [complete, balancing, handed, startup]

end Trace

def Run.Traced (repeats : Nat) (driven : Prop) (handed : List (Handed R)) : Run R → Prop
  | .ready _ => False
  | .connecting _ => handed = []
  | .rousing p left | .dwelling p left =>
    p = .standUp ∧ (∃ n, n + left = repeats ∧ handed = (Trace.standing n).handed) ∨
      p = .balanceStand ∧ ∃ n, n + left = repeats ∧ handed = (Trace.balancing repeats n).handed
  | .halting => handed = (Trace.complete repeats).handed
  | .sending .. | .tripping _ | .pacing _ =>
    driven ∧ ∃ t : Trace R, t.Ordered repeats driven ∧ t.halted = true ∧ handed = t.handed
  | .parking _ | .leaving _ | .over _ =>
    ∃ t : Trace R, t.Ordered repeats driven ∧ handed = t.handed ++ [⟨.cleanup, .stop⟩]

namespace Run

theorem Traced.in_order {run : Run R} {repeats : Nat} {driven : Prop} {handed : List (Handed R)}
    (traced : run.Traced repeats driven handed) (underWay : run.UnderWay) :
    ∃ t : Trace R, t.Ordered repeats driven ∧ handed = t.handed := by
  cases run with
  | ready i => exact False.elim underWay
  | connecting i => exact ⟨.standing 0, Trace.standing_ordered driven (Nat.zero_le _), traced⟩
  | rousing p left | dwelling p left =>
    rcases traced with ⟨_, n, sum, same⟩ | ⟨_, n, sum, same⟩
    · exact ⟨.standing n, Trace.standing_ordered driven (by omega), same⟩
    · exact ⟨.balancing repeats n, Trace.balancing_ordered driven (by omega), same⟩
  | halting => exact ⟨.complete repeats, Trace.complete_ordered repeats driven, traced⟩
  | sending choice k | tripping k | pacing k =>
    obtain ⟨_, t, ordered, _, same⟩ := traced
    exact ⟨t, ordered, same⟩
  | parking e | leaving e | «over» e => exact False.elim underWay

theorem Traced.closed {run : Run R} {repeats : Nat} {driven : Prop} {handed : List (Handed R)}
    (traced : run.Traced repeats driven handed) (ending : ¬ run.UnderWay) :
    ∃ t : Trace R, t.Ordered repeats driven ∧ handed = t.handed ++ [⟨.cleanup, .stop⟩] := by
  cases run with
  | ready i => exact False.elim traced
  | parking e | leaving e | «over» e => exact traced
  | _ => exact absurd trivial ending

theorem Traced.imp {run : Run R} {repeats : Nat} {before after : Prop} {handed : List (Handed R)}
    (traced : run.Traced repeats before handed) (later : before → after) :
    run.Traced repeats after handed := by
  cases run with
  | sending choice k | tripping k | pacing k =>
    obtain ⟨goes, t, ordered, rest⟩ := traced
    exact ⟨later goes, t, ordered.imp later, rest⟩
  | parking e | leaving e | «over» e =>
    obtain ⟨t, ordered, same⟩ := traced
    exact ⟨t, ordered.imp later, same⟩
  | _ => exact traced

def Progress.Traces (p : Progress R) (repeats : Nat) (driven : Prop) (handed : List (Handed R)) :
    Prop :=
  p.run.Traced repeats driven (handed ++ p.handed)

variable {m : Moment R} {repeats : Nat} {driven : Prop}

theorem Traced.silent {p : Progress R} {handed : List (Handed R)}
    (after : p.run.Traced repeats driven handed) (quiet : p.handed = []) :
    p.Traces repeats driven handed := by
  rw [Progress.Traces, quiet, List.append_nil]
  exact after

theorem windDown_traces (s : Supervisor R) (e : Ending R) {t : Trace R}
    (connected : m.connected = true) (ordered : t.Ordered repeats driven) :
    (windDown m s e).Traces repeats driven t.handed := by
  rcases windDown_cases m s e with ⟨_, run, request, _⟩ | ⟨cut, _, _, _⟩
  · rw [Progress.Traces, run]
    refine ⟨t, ordered, ?_⟩
    simp [Progress.handed, request, run, leg]
  · rw [connected] at cut; cases cut

theorem balance_traces (s : Supervisor R) {n left : Nat} (connected : m.connected = true)
    (sum : n + left = repeats) :
    (balance m s left).Traces repeats driven (Trace.balancing repeats n).handed := by
  rcases balance_cases m s left with ⟨none_left, eq⟩ | ⟨less, some_left, _, eq⟩ | ⟨_, eq⟩
  · obtain rfl : n = repeats := by omega
    rw [eq]
    exact (Trace.complete_handed n).symm
  · rw [eq]
    exact .inr ⟨rfl, n + 1, by omega, (Trace.balancing_handed_succ repeats n).symm⟩
  · rw [eq]
    exact windDown_traces s .returned connected (Trace.balancing_ordered driven (by omega))

theorem stand_traces {s : Supervisor R} (asked : s.timing.startupRepeats.toNat = repeats)
    {n left : Nat} (connected : m.connected = true) (sum : n + left = repeats) :
    (stand m s left).Traces repeats driven (Trace.standing n).handed := by
  rcases stand_cases m s left with ⟨none_left, notes, eq⟩ | ⟨less, some_left, _, eq⟩ | ⟨_, eq⟩
  · obtain rfl : n = repeats := by omega
    rw [eq, asked, ← Trace.balancing_handed_zero]
    exact balance_traces s connected (Nat.zero_add n)
  · rw [eq]
    exact .inl ⟨rfl, n + 1, by omega, (Trace.standing_handed_succ n).symm⟩
  · rw [eq]
    exact windDown_traces s .returned connected (Trace.standing_ordered driven (by omega))

theorem trip_traces (m : Moment R) (s : Supervisor R) (k : Keeper R) (why : Fault R)
    {handed : List (Handed R)} (before : (Run.pacing k).Traced repeats driven handed) :
    (trip m s k why).Traces repeats driven handed := by
  obtain ⟨goes, t, ordered, halted, rfl⟩ := before
  exact ⟨goes, _, ordered.tick halted goes (.inr rfl), halted, (t.handed_tick _).symm⟩

variable [Scalar R]

theorem settleTick_traces (s : Supervisor R) (choice : Supervisor.Choice R) (k : Keeper R)
    {handed : List (Handed R)} (before : (Run.pacing k).Traced repeats driven handed) :
    (settleTick m s choice k).Traces repeats driven handed := by
  have after : (settleTick m s choice k).run.Traced repeats driven handed := before
  exact after.silent rfl

theorem nextTick_traces (s : Supervisor R) (k : Keeper R) (connected : m.connected = true)
    {handed : List (Handed R)} (before : (Run.pacing k).Traced repeats driven handed) :
    (nextTick m s k).Traces repeats driven handed := by
  rcases nextTick_cases m s k with
    ⟨_, eq⟩ | ⟨why, notes, _, _, eq⟩ | ⟨choice, notes, _, _, eq | eq⟩
  · obtain ⟨_, t, ordered, _, rfl⟩ := before
    rw [eq]; exact windDown_traces s .returned connected ordered
  · rw [eq]; exact trip_traces m (s.choose m.plan).state k why before
  · obtain ⟨goes, t, ordered, halted, rfl⟩ := before
    rw [eq]
    exact ⟨goes, _, ordered.tick halted goes (.inl rfl), halted, (t.handed_tick _).symm⟩
  · rw [eq]
    exact settleTick_traces ((s.choose m.plan).state.wire choice.command).1 choice k before

theorem activate_traces {s : Supervisor R} (connected : m.connected = true)
    (goes : s.running = true → driven) :
    (activate m s).Traces repeats driven (Trace.complete repeats).handed := by
  have ordered := Trace.complete_ordered (R := R) repeats driven
  rcases activate_cases m s with ⟨e, eq⟩ | ⟨e, notes, _, eq⟩ | ⟨k, notes, running, eq⟩
  · rw [eq]; exact windDown_traces s e connected ordered
  · rw [eq]; exact windDown_traces _ e connected ordered
  · rw [eq]
    exact nextTick_traces _ k connected ⟨goes running, .complete repeats, ordered, rfl, rfl⟩

theorem traced_turn {s : Supervisor R} {run : Run R} {reply : Reply R} {p : Progress R}
    {handed : List (Handed R)} (asked : s.timing.startupRepeats.toNat = repeats)
    (connected : run.UnderWay → m.connected = true)
    (goes : run = .halting → reply = .ok → s.running = true → driven)
    (before : run.Traced repeats driven handed) (turn : Turn m s run reply p) :
    p.Traces repeats driven handed := by
  cases turn with
  | begins i => exact False.elim before
  | neverBegins i reply h => exact False.elim before
  | staysOver e reply => exact Traced.silent before rfl
  | connects i notes =>
    cases before
    have still_asked :
        (s.transition (m.told .starting) .starting).1.timing.startupRepeats.toNat = repeats := by
      obtain ⟨_, _, eq⟩ := s.transition_only (m.told .starting) .starting
      rw [eq]
      exact asked
    exact stand_traces still_asked (connected trivial) ((Nat.zero_add _).trans still_asked)
  | dwells p n => exact Traced.silent before rfl
  | stands n =>
    -- `done + left = repeats` is what makes the counts come out at the end of a posture
    rcases before with ⟨_, done, sum, rfl⟩ | ⟨other, _⟩
    · exact stand_traces asked (connected trivial) sum
    · cases other
  | balances p n h =>
    rcases before with ⟨same, _⟩ | ⟨_, done, sum, rfl⟩
    · exact absurd same h
    · exact balance_traces s (connected trivial) sum
  | halts notes =>
    cases before
    exact activate_traces (connected trivial) (goes rfl rfl)
  | sent choice k notes => exact settleTick_traces (s.record choice.command).1 choice k before
  | trips choice k why => exact trip_traces m s k why before
  | paces k reply notes h => exact Traced.silent before rfl
  | ticks k => exact nextTick_traces s k (connected trivial) before
  | leaves e => exact Traced.silent before rfl
  | parkingFails e why => exact Traced.silent before rfl
  | concludes e => exact Traced.silent before rfl
  | leavingFails e why => exact Traced.silent before rfl
  | abandons run e reply h cut =>
    rcases h with rfl | rfl
    · exact Traced.silent before rfl
    · exact Traced.silent before rfl
  | closes run reply e notes h failed =>
    obtain ⟨t, ordered, rfl⟩ := before.in_order h
    exact windDown_traces s e (connected h) ordered

end Run

namespace Course

variable [Scalar R]

def StaysConnected : Course R → List (Event R) → Prop
  | _, [] => True
  | c, .answer m reply :: rest =>
    (c.run.UnderWay → m.connected = true) ∧ (c.step (.answer m reply)).StaysConnected rest
  | c, e :: rest => (c.step e).StaysConnected rest

def Opens (c : Course R) (e : Event R) : Prop :=
  c.run = .halting ∧ c.supervisor.running = true ∧ ∃ m, e = .answer m .ok

def Opened : Course R → List (Event R) → Prop
  | _, [] => False
  | c, e :: rest => c.Opens e ∨ (c.step e).Opened rest

theorem timing_step (c : Course R) (e : Event R) :
    (c.step e).supervisor.timing = c.supervisor.timing := by
  cases e with
  | call k => exact c.supervisor.obey_timing k
  | upset r => rfl
  | answer m reply =>
    exact (Supervisor.timing_lasting _).turn (Run.resume_turn m c.supervisor c.run reply) rfl

theorem traced_step {c : Course R} {e : Event R} {later : List (Event R)} {repeats : Nat}
    {driven : Prop} (asked : c.supervisor.timing.startupRepeats.toNat = repeats)
    (connected : c.StaysConnected (e :: later)) (before : c.run.Traced repeats driven c.handed) :
    (c.step e).run.Traced repeats (driven ∨ c.Opens e) (c.step e).handed := by
  have kept := before.imp (.inl : driven → driven ∨ c.Opens e)
  cases e with
  | call k => exact kept
  | upset r => exact kept
  | answer m reply =>
    have goes (at_halt : c.run = .halting) (good : reply = .ok)
        (running : c.supervisor.running = true) : driven ∨ c.Opens (.answer m reply) :=
      .inr ⟨at_halt, running, m, by rw [good]⟩
    exact Run.traced_turn asked connected.1 goes kept (Run.resume_turn m c.supervisor c.run reply)

theorem StaysConnected.rest {c : Course R} {e : Event R} {later : List (Event R)}
    (connected : c.StaysConnected (e :: later)) : (c.step e).StaysConnected later := by
  cases e with
  | call k => exact connected
  | upset r => exact connected
  | answer m reply => exact connected.2

theorem traced_after (events : List (Event R)) {c : Course R} {repeats : Nat} {driven : Prop}
    (asked : c.supervisor.timing.startupRepeats.toNat = repeats)
    (connected : c.StaysConnected events) (before : c.run.Traced repeats driven c.handed) :
    (c.after events).run.Traced repeats (driven ∨ c.Opened events) (c.after events).handed := by
  induction events generalizing c driven with
  | nil => exact before.imp .inl
  | cons e later ih =>
    have next := ih (by rw [c.timing_step e]; exact asked) connected.rest
      (traced_step asked connected before)
    exact next.imp or_assoc.mp

theorem startup_then_ticks_then_stop (s : Supervisor R) (interface : String)
    (events : List (Event R)) (connected : (begin s interface).StaysConnected events) :
    let c := (begin s interface).after events
    ∃ (t : Trace R) (closing : List (Handed R)),
      t.Ordered s.timing.startupRepeats.toNat ((begin s interface).Opened events) ∧
        c.handed = t.handed ++ closing ∧
        closing = (if c.run.UnderWay then [] else [⟨.cleanup, .stop⟩]) ∧
        ∀ first h rest v, c.handed = first ++ h :: rest → h.command = .velocity v →
          ⟨.halt, .stop⟩ ∈ first ∧ ∀ g ∈ first, g.leg ≠ .cleanup := by
  intro c
  have begun : (begin s interface).run.Traced s.timing.startupRepeats.toNat False
      (begin s interface).handed := rfl
  have traced := (traced_after events rfl connected begun).imp
    (fun goes => goes.resolve_left id : _ → (begin s interface).Opened events)
  have shape : ∃ (t : Trace R) (closing : List (Handed R)),
      t.Ordered s.timing.startupRepeats.toNat ((begin s interface).Opened events) ∧
        c.handed = t.handed ++ closing ∧
        closing = (if c.run.UnderWay then [] else [⟨.cleanup, .stop⟩]) := by
    by_cases underWay : c.run.UnderWay
    · obtain ⟨t, ordered, same⟩ := traced.in_order underWay
      exact ⟨t, [], ordered, by simpa using same, (if_pos underWay).symm⟩
    · obtain ⟨t, ordered, same⟩ := traced.closed underWay
      exact ⟨t, _, ordered, same, (if_neg underWay).symm⟩
  obtain ⟨t, closing, ordered, same, closes⟩ := shape
  refine ⟨t, closing, ordered, same, closes, ?_⟩
  intro first h rest v split velocity
  refine ordered.velocity_between ?_ (same.symm.trans split) velocity
  intro g member
  rw [closes] at member
  split at member
  · cases member
  · rw [List.mem_singleton.mp member]

/-- A direction is selected during the startup; its velocity waits for the stop, and a cancellation
closes the run. -/
theorem cancelled_run_in_order :
    let answers : List (Reply Float) := [.ok, .ok, .ok, .ok, .ok, .ok, .ok, .cancelled, .ok, .ok]
    let events : List (Event Float) :=
      .call (.setMode (.teleop .forward)) :: answers.map (.answer (.frozen 0 true))
    let start := begin (.standard 1 []) "sim0"
    start.StaysConnected events ∧ (start.after events).run = .over .cancelled ∧
      ∃ t : Trace Float, t.Ordered 1 (start.Opened events) ∧
        (start.after events).handed = t.handed ++ [⟨.cleanup, .stop⟩] := by
  intro answers events start
  have connected : start.StaysConnected events := by
    simp [events, answers, StaysConnected]
  have closed : (start.after events).run = .over .cancelled := by decide +kernel
  obtain ⟨t, closing, ordered, same, closes, _⟩ :=
    startup_then_ticks_then_stop (.standard 1 []) "sim0" events connected
  refine ⟨connected, closed, t, ordered, ?_⟩
  rw [same, closes, closed]
  rfl

end Course
end Quadruped
