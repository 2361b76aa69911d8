import Quadruped.Proofs.Supervisor.Course

/-!
The turns of a run. `Turn` lists once what a run may do with a reply; every law about runs is proved
by going through that list.
-/
namespace Quadruped

variable {R : Type}

namespace Run

def UnderWay : Run R → Prop
  | .ready _ | .parking _ | .leaving _ | .over _ => False
  | _ => True

instance (run : Run R) : Decidable run.UnderWay := by
  cases run <;> simp only [UnderWay] <;> infer_instance

@[simp] theorem after_supervisor (notes : List (Note R)) (p : Progress R) :
    (p.after notes).supervisor = p.supervisor := rfl

@[simp] theorem after_run (notes : List (Note R)) (p : Progress R) :
    (p.after notes).run = p.run := rfl

@[simp] theorem after_request (notes : List (Note R)) (p : Progress R) :
    (p.after notes).request = p.request := rfl

@[simp] theorem after_handed (notes : List (Note R)) (p : Progress R) :
    (p.after notes).handed = p.handed := rfl

variable (m : Moment R) (s : Supervisor R)

theorem windDown_cases (e : Ending R) :
    (m.connected = true ∧ (windDown m s e).run = .parking e ∧
        (windDown m s e).request = .send .stop ∧
        (windDown m s e).supervisor = s.stop.cancelPlan.1) ∨
      (m.connected = false ∧ (windDown m s e).run = .over e ∧
        (windDown m s e).request = .finish e ∧
        (windDown m s e).supervisor = (s.stop.cancelPlan.1.transition (m.told .stopped) .stopped).1) := by
  unfold windDown
  cases h : m.connected with
  | true => exact .inl ⟨rfl, rfl, rfl, rfl⟩
  | false => exact .inr ⟨rfl, rfl, rfl, rfl⟩

theorem balance_cases (n : Nat) :
    (n = 0 ∧ balance m s n = ⟨s, .halting, .send .stop, []⟩) ∨
      (∃ left, n = left + 1 ∧ s.running = true ∧
        balance m s n = ⟨s, .rousing .balanceStand left, .send (.posture .balanceStand), []⟩) ∨
      (s.running = false ∧ balance m s n = windDown m s .returned) := by
  cases n with
  | zero => exact .inl ⟨rfl, rfl⟩
  | succ left =>
    cases h : s.running with
    | true => exact .inr (.inl ⟨left, rfl, rfl, by simp [balance, repeatPosture, h]⟩)
    | false => exact .inr (.inr ⟨rfl, by simp [balance, repeatPosture, h]⟩)

theorem stand_cases (n : Nat) :
    (n = 0 ∧ ∃ notes,
        stand m s n = (balance m s s.timing.startupRepeats.toNat).after notes) ∨
      (∃ left, n = left + 1 ∧ s.running = true ∧
        stand m s n = ⟨s, .rousing .standUp left, .send (.posture .standUp), []⟩) ∨
      (s.running = false ∧ stand m s n = windDown m s .returned) := by
  cases n with
  | zero => exact .inl ⟨rfl, _, rfl⟩
  | succ left =>
    cases h : s.running with
    | true => exact .inr (.inl ⟨left, rfl, rfl, by simp [stand, repeatPosture, h]⟩)
    | false => exact .inr (.inr ⟨rfl, by simp [stand, repeatPosture, h]⟩)

def Progress.GoesOn (m : Moment R) (p : Progress R) : Prop :=
  (p.run.UnderWay ∧ ((∃ c, p.request = .send c) ∨ ∃ d, p.request = .sleep d)) ∨
    ∃ s e notes, p = (windDown m s e).after notes

theorem Progress.GoesOn.after {m : Moment R} {p : Progress R} (goes : p.GoesOn m)
    (notes : List (Note R)) : (p.after notes).GoesOn m := by
  rcases goes with under_way | ⟨s, e, more, rfl⟩
  · exact .inl under_way
  · exact .inr ⟨s, e, notes ++ more, by simp [Progress.after]⟩

theorem windDown_goes_on (e : Ending R) : (windDown m s e).GoesOn m :=
  .inr ⟨s, e, [], rfl⟩

theorem balance_goes_on (n : Nat) : (balance m s n).GoesOn m := by
  rcases balance_cases m s n with ⟨_, eq⟩ | ⟨left, _, _, eq⟩ | ⟨_, eq⟩
  · rw [eq]; exact .inl ⟨trivial, .inl ⟨_, rfl⟩⟩
  · rw [eq]; exact .inl ⟨trivial, .inl ⟨_, rfl⟩⟩
  · rw [eq]; exact windDown_goes_on m s _

theorem stand_goes_on (n : Nat) : (stand m s n).GoesOn m := by
  rcases stand_cases m s n with ⟨_, notes, eq⟩ | ⟨left, _, _, eq⟩ | ⟨_, eq⟩
  · rw [eq]; exact (balance_goes_on m s _).after notes
  · rw [eq]; exact .inl ⟨trivial, .inl ⟨_, rfl⟩⟩
  · rw [eq]; exact windDown_goes_on m s _

variable [Scalar R]

inductive Turn : Run R → Reply R → Progress R → Prop where
  | begins (i : String) : Turn (.ready i) .ok (begin s i)
  | neverBegins (i : String) (reply : Reply R) (h : reply ≠ .ok) :
      Turn (.ready i) reply (finish s .cancelled)
  | staysOver (e : Ending R) (reply : Reply R) : Turn (.over e) reply (finish s e)
  | connects (i : String) (notes : List (Note R)) :
      Turn (.connecting i) .ok ((rouse m s).after notes)
  | dwells (p : Posture) (n : Nat) :
      Turn (.rousing p n) .ok ⟨s, .dwelling p n, .sleep s.timing.startupInterval, []⟩
  | stands (n : Nat) : Turn (.dwelling .standUp n) .ok (stand m s n)
  | balances (p : Posture) (n : Nat) (h : p ≠ .standUp) :
      Turn (.dwelling p n) .ok (balance m s n)
  | halts (notes : List (Note R)) : Turn .halting .ok ((activate m s).after notes)
  | sent (choice : Supervisor.Choice R) (k : Keeper R) (notes : List (Note R)) :
      Turn (.sending choice k) .ok
        ((settleTick m (s.record choice.command).1 choice k).after notes)
  | trips (choice : Supervisor.Choice R) (k : Keeper R) (why : Fault R) :
      Turn (.sending choice k) (.raised why) (trip m s k why)
  | paces (k : Keeper R) (reply : Reply R) (notes : List (Note R))
      (h : reply = .ok ∨ ∃ why, reply = .raised why) :
      Turn (.tripping k) reply ((pace m s k).after notes)
  | ticks (k : Keeper R) : Turn (.pacing k) .ok (nextTick m s k)
  | leaves (e : Ending R) : Turn (.parking e) .ok ⟨s, .leaving e, .disconnect, []⟩
  | parkingFails (e : Ending R) (why : Fault R) :
      Turn (.parking e) (.raised why) ((conclude m s e).after [.cleanupFailed why])
  | concludes (e : Ending R) : Turn (.leaving e) .ok (conclude m s e)
  | leavingFails (e : Ending R) (why : Fault R) :
      Turn (.leaving e) (.raised why) ((conclude m s e).after [.cleanupFailed why])
  | abandons (run : Run R) (e : Ending R) (reply : Reply R)
      (h : run = .parking e ∨ run = .leaving e) (cut : reply = .refused ∨ reply = .cancelled) :
      Turn run reply (finish s .cancelled)
  | closes (run : Run R) (reply : Reply R) (e : Ending R) (notes : List (Note R))
      (h : run.UnderWay) (failed : reply ≠ .ok) :
      Turn run reply ((windDown m s e).after notes)

theorem resume_turn (run : Run R) (reply : Reply R) :
    Turn m s run reply (run.resume m s reply) := by
  have closing (run : Run R) (e : Ending R) (h : run.UnderWay) (failed : reply ≠ .ok) :
      Turn m s run reply (windDown m s e) := .closes run reply e [] h failed
  cases run with
  | ready i =>
    cases reply with
    | ok => exact .begins i
    | _ => exact .neverBegins i _ (by simp)
  | connecting i =>
    cases reply with
    | ok => exact .connects i _
    | refused => exact .closes _ _ _ _ trivial (by simp)
    | _ => exact closing _ _ trivial (by simp)
  | rousing p n =>
    cases reply with
    | ok => exact .dwells p n
    | _ => exact closing _ _ trivial (by simp)
  | dwelling p n =>
    cases reply with
    | ok =>
      cases p with
      | standUp => exact .stands n
      | _ => exact .balances _ n (by simp)
    | _ => cases p <;> exact closing _ _ trivial (by simp)
  | halting =>
    cases reply with
    | ok => exact .halts _
    | _ => exact closing _ _ trivial (by simp)
  | sending choice k =>
    cases reply with
    | ok => exact .sent choice k _
    | raised why => exact .trips choice k why
    | _ => exact closing _ _ trivial (by simp)
  | tripping k =>
    cases reply with
    | ok => exact .paces k _ [] (.inl rfl)
    | raised why => exact .paces k _ _ (.inr ⟨why, rfl⟩)
    | _ => exact closing _ _ trivial (by simp)
  | pacing k =>
    cases reply with
    | ok => exact .ticks k
    | _ => exact closing _ _ trivial (by simp)
  | parking e =>
    cases reply with
    | ok => exact .leaves e
    | raised why => exact .parkingFails e why
    | _ => exact .abandons _ e _ (.inl rfl) (by simp)
  | leaving e =>
    cases reply with
    | ok => exact .concludes e
    | raised why => exact .leavingFails e why
    | _ => exact .abandons _ e _ (.inr rfl) (by simp)
  | «over» e => exact .staysOver e reply

theorem nextTick_cases (k : Keeper R) :
    (s.running = false ∧ nextTick m s k = windDown m s .returned) ∨
      (∃ why notes, s.running = true ∧ (s.choose m.plan).result = .error why ∧
        nextTick m s k = (trip m (s.choose m.plan).state k why).after notes) ∨
      ∃ choice notes, s.running = true ∧ (s.choose m.plan).result = .ok choice ∧
        let wired := ((s.choose m.plan).state.wire choice.command).1
        (nextTick m s k =
            Progress.after notes ⟨wired, .sending choice k, .send choice.command, []⟩ ∨
          nextTick m s k = (settleTick m wired choice k).after notes) := by
  unfold nextTick
  cases running : s.running with
  | false => exact .inl ⟨rfl, rfl⟩
  | true =>
    right
    unfold beginTick
    cases chosen : (s.choose m.plan).result with
    | error why => exact .inl ⟨why, (s.choose m.plan).notes, rfl, rfl, by simp [chosen]⟩
    | ok choice =>
      refine .inr ⟨choice, (s.choose m.plan).notes, rfl, rfl, ?_⟩
      cases needed : ((s.choose m.plan).state.wire choice.command).2 with
      | true => exact .inl (by simp [chosen, needed])
      | false => exact .inr (by simp [chosen, needed])

theorem activate_cases :
    (∃ e, (activate m s) = windDown m s e) ∨
      (∃ e notes, s.running = true ∧
        activate m s = (windDown m (s.transition (m.told .active) .active).1 e).after notes) ∨
      ∃ k notes, s.running = true ∧
        activate m s = (nextTick m (s.transition (m.told .active) .active).1 k).after notes := by
  unfold activate
  cases running : s.running with
  | false => exact .inl ⟨.returned, rfl⟩
  | true =>
    right
    cases made : Keeper.create (s.transition (m.told .active) .active).1.timing.controlPeriod
        (s.transition (m.told .active) .active).1.timing.lagWarning m.opened with
    | error why =>
      exact .inl ⟨.raised why, (s.transition (m.told .active) .active).2, rfl, by simp [made]⟩
    | ok k => exact .inr ⟨k, (s.transition (m.told .active) .active).2, rfl, by simp [made]⟩

theorem nextTick_goes_on (k : Keeper R) : (nextTick m s k).GoesOn m := by
  rcases nextTick_cases m s k with
    ⟨_, eq⟩ | ⟨why, notes, _, _, eq⟩ | ⟨choice, notes, _, _, eq | eq⟩
  · rw [eq]; exact windDown_goes_on m s _
  · rw [eq]; exact .inl ⟨trivial, .inl ⟨_, rfl⟩⟩
  · rw [eq]; exact .inl ⟨trivial, .inl ⟨_, rfl⟩⟩
  · rw [eq]; exact .inl ⟨trivial, .inr ⟨_, rfl⟩⟩

theorem activate_goes_on : (activate m s).GoesOn m := by
  rcases activate_cases m s with ⟨e, eq⟩ | ⟨e, notes, _, eq⟩ | ⟨k, notes, _, eq⟩
  · rw [eq]; exact windDown_goes_on m s e
  · rw [eq]; exact (windDown_goes_on m _ e).after notes
  · rw [eq]; exact (nextTick_goes_on m _ k).after notes

theorem under_way_goes_on {m : Moment R} {s : Supervisor R} {run : Run R} {reply : Reply R}
    {p : Progress R} (under_way : run.UnderWay) (turn : Turn m s run reply p) : p.GoesOn m := by
  cases turn with
  | begins i => exact False.elim under_way
  | neverBegins i reply h => exact False.elim under_way
  | staysOver e reply => exact False.elim under_way
  | connects i notes => exact ((stand_goes_on m _ _).after _).after notes
  | dwells p n => exact .inl ⟨trivial, .inr ⟨_, rfl⟩⟩
  | stands n => exact stand_goes_on m s n
  | balances p n h => exact balance_goes_on m s n
  | halts notes => exact (activate_goes_on m s).after notes
  | sent choice k notes => exact .inl ⟨trivial, .inr ⟨_, rfl⟩⟩
  | trips choice k why => exact .inl ⟨trivial, .inl ⟨_, rfl⟩⟩
  | paces k reply notes h => exact .inl ⟨trivial, .inr ⟨_, rfl⟩⟩
  | ticks k => exact nextTick_goes_on m s k
  | leaves e => exact False.elim under_way
  | parkingFails e why => exact False.elim under_way
  | concludes e => exact False.elim under_way
  | leavingFails e why => exact False.elim under_way
  | abandons run e reply h cut =>
    rcases h with rfl | rfl
    · exact False.elim under_way
    · exact False.elim under_way
  | closes run reply e notes h failed => exact (windDown_goes_on m s e).after notes

end Run

variable [Scalar R]

/-- What has to be shown of a property of supervisors for it to outlast every turn of a run. -/
structure Supervisor.Lasting (P : Supervisor R → Prop) : Prop where
  runs : ∀ s running, P s → P { s with running }
  cancels : ∀ s, P s → P s.cancelPlan.1
  idles : ∀ s, P s → P { s with mode := s.mode.set .idle }
  changes : ∀ s now new, P s → P (s.transition now new).1
  chooses : ∀ s now, P s → P (s.choose now).state
  wires : ∀ s c, P s → P (s.wire c).1
  records : ∀ s c, P s → P (s.record c).1
  settles : ∀ s m, P s → P (s.settle m).1

namespace Supervisor.Lasting

open Run

variable {P : Supervisor R → Prop} (lasting : Lasting P)
include lasting

theorem windDown (m : Moment R) {s : Supervisor R} (e : Ending R) (before : P s) :
    P (windDown m s e).supervisor := by
  have stopped : P s.stop.cancelPlan.1 := lasting.cancels _ (lasting.runs s false before)
  rcases windDown_cases m s e with ⟨_, _, _, eq⟩ | ⟨_, _, _, eq⟩
  · rw [eq]; exact stopped
  · rw [eq]; exact lasting.changes _ (m.told .stopped) .stopped stopped

theorem balance (m : Moment R) {s : Supervisor R} (n : Nat) (before : P s) :
    P (balance m s n).supervisor := by
  rcases balance_cases m s n with ⟨_, eq⟩ | ⟨left, _, _, eq⟩ | ⟨_, eq⟩
  · rw [eq]; exact before
  · rw [eq]; exact before
  · rw [eq]; exact lasting.windDown m _ before

theorem stand (m : Moment R) {s : Supervisor R} (n : Nat) (before : P s) :
    P (stand m s n).supervisor := by
  rcases stand_cases m s n with ⟨_, notes, eq⟩ | ⟨left, _, _, eq⟩ | ⟨_, eq⟩
  · rw [eq]; exact lasting.balance m _ before
  · rw [eq]; exact before
  · rw [eq]; exact lasting.windDown m _ before

theorem trip (m : Moment R) {s : Supervisor R} (k : Keeper R) (why : Fault R) (before : P s) :
    P (trip m s k why).supervisor :=
  lasting.changes _ (m.told .failsafe) .failsafe (lasting.idles _ (lasting.cancels s before))

theorem nextTick (m : Moment R) {s : Supervisor R} (k : Keeper R) (before : P s) :
    P (nextTick m s k).supervisor := by
  have chosen := lasting.chooses s m.plan before
  rcases nextTick_cases m s k with
    ⟨_, eq⟩ | ⟨why, notes, _, _, eq⟩ | ⟨choice, notes, _, _, eq | eq⟩
  · rw [eq]; exact lasting.windDown m _ before
  · rw [eq]; exact lasting.trip m k why chosen
  · rw [eq]; exact lasting.wires _ choice.command chosen
  · rw [eq]; exact lasting.settles _ choice.mode (lasting.wires _ choice.command chosen)

theorem activate (m : Moment R) {s : Supervisor R} (before : P s) :
    P (activate m s).supervisor := by
  have active := lasting.changes s (m.told .active) .active before
  rcases activate_cases m s with ⟨e, eq⟩ | ⟨e, notes, _, eq⟩ | ⟨k, notes, _, eq⟩
  · rw [eq]; exact lasting.windDown m e before
  · rw [eq]; exact lasting.windDown m e active
  · rw [eq]; exact lasting.nextTick m k active

theorem turn {m : Moment R} {s : Supervisor R} {run : Run R} {reply : Reply R} {p : Progress R}
    (turn : Turn m s run reply p) (before : P s) : P p.supervisor := by
  cases turn with
  | begins i => exact lasting.runs s true before
  | neverBegins i reply h => exact before
  | staysOver e reply => exact before
  | connects i notes => exact lasting.stand m _ (lasting.changes s (m.told .starting) .starting before)
  | dwells p n => exact before
  | stands n => exact lasting.stand m n before
  | balances p n h => exact lasting.balance m n before
  | halts notes => exact lasting.activate m before
  | sent choice k notes =>
    exact lasting.settles _ choice.mode (lasting.records s choice.command before)
  | trips choice k why => exact lasting.trip m k why before
  | paces k reply notes h => exact before
  | ticks k => exact lasting.nextTick m k before
  | leaves e => exact before
  | parkingFails e why => exact lasting.changes s (m.told .stopped) .stopped before
  | concludes e => exact lasting.changes s (m.told .stopped) .stopped before
  | leavingFails e why => exact lasting.changes s (m.told .stopped) .stopped before
  | abandons run e reply h cut => exact before
  | closes run reply e notes h failed => exact lasting.windDown m e before

end Supervisor.Lasting

namespace Supervisor

/-- A property of the settings of a supervisor, its plan and its newest pose, which a cancel keeps. -/
structure Abiding (P : Supervisor R → Prop) : Prop where
  same : ∀ s t, t.timing = s.timing → t.dispatch = s.dispatch → t.runner = s.runner →
    t.sampler = s.sampler → P s → P t
  cancels : ∀ s, P s → P s.cancelPlan.1

namespace Abiding

variable {P : Supervisor R → Prop} (abiding : Abiding P) {s : Supervisor R}
include abiding

omit [Scalar R] in
theorem setMode (m : Mode) (before : P s) : P (s.setMode m).1 := by
  rcases s.setMode_cases m with ⟨eq, _⟩ | ⟨eq, _⟩
  · rw [eq]; exact abiding.same s _ rfl rfl rfl rfl before
  · rw [eq]; exact abiding.same s.cancelPlan.1 _ rfl rfl rfl rfl (abiding.cancels s before)

theorem obey {c : Call R} (before : P s)
    (starts : ∀ items heading, c = .startPlan items heading →
      P { s with runner := (s.runner.start items heading).state })
    (hears : ∀ pose, c = .hear pose → P { s with sampler := (s.sampler.update pose).1 }) :
    P (s.obey c) := by
  cases c with
  | setMode m => exact abiding.setMode m before
  | startPlan items heading =>
    have started := starts items heading rfl
    exact Outcome.andThen_keeps P started fun _ => abiding.setMode .autonomous started
  | cancelPlan => exact abiding.cancels s before
  | stop => exact abiding.same s _ rfl rfl rfl rfl before
  | hear pose => exact hears pose rfl

theorem lasting (chooses : ∀ s now, P s → P (s.choose now).state) : Lasting P where
  runs s _ before := abiding.same s _ rfl rfl rfl rfl before
  cancels := abiding.cancels
  idles s before := abiding.same s _ rfl rfl rfl rfl before
  changes s now new before := by
    obtain ⟨_, _, eq⟩ := s.transition_only now new
    rw [eq]
    exact abiding.same s _ rfl rfl rfl rfl before
  chooses := chooses
  wires s c before := by
    obtain ⟨_, eq⟩ := s.wire_only c
    rw [eq]
    exact abiding.same s _ rfl rfl rfl rfl before
  records s _ before := abiding.same s _ rfl rfl rfl rfl before
  settles s m before := by
    obtain ⟨_, eq⟩ := s.settle_only m
    rw [eq]
    exact abiding.same s _ rfl rfl rfl rfl before

end Abiding

theorem timing_lasting (timing : Timing R) : Lasting fun s : Supervisor R => s.timing = timing := by
  have abiding : Abiding fun s : Supervisor R => s.timing = timing :=
    ⟨fun _ _ kept _ _ _ same => kept.trans same, fun _ same => same⟩
  refine abiding.lasting ?_
  intro s now same
  obtain ⟨_, _, eq⟩ := s.choose_only now
  rw [eq]
  exact same

end Supervisor
end Quadruped
