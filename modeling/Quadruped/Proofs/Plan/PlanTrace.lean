import Quadruped.Proofs.Number.Double
import Quadruped.Proofs.Plan.Flight
import Quadruped.Proofs.Plan.Rest

/-!
What the ticks of a plan give, from its start to its end: each segment in turn, one stop after it, a
pause, and nothing once the plan is over. The invariant of a plan under way is joined to what its
ticks still have to give, and every tick gives the first part of that.
-/
namespace Quadruped.Runner

section Grammar

variable {R : Type} [Scalar R]

/-- What the ticks of one segment give. A travel moves for one tick at least; a turn may have arrived
as it begins. -/
def Block (g : Gains R) : Segment R → List (Option (Command R)) → Prop
  | .turn _, given => ∃ rates : List R, (∀ w ∈ rates, w = g.turnSpeed ∨ w = -g.turnSpeed) ∧
      given = rates.map (fun w => some (.velocity ⟨0, 0, w⟩)) ++ [some .stop]
  | .travel _, given => ∃ biases : List R, biases ≠ [] ∧
      given = biases.map (fun c => some (.velocity ⟨g.travelSpeed, 0, c⟩)) ++ [some .stop]

/-- What the ticks of a whole plan give. No pause follows the last segment, and none follows any where
the settings have no pause. -/
def Unfolds (g : Gains R) : List (Segment R) → List (Option (Command R)) → Prop
  | [], given => ∃ n, given = List.replicate n none
  | s :: rest, given => ∃ block pause later, Block g s block ∧
      (rest = [] ∨ Scalar.lt 0 g.segmentPause = false → pause = 0) ∧ Unfolds g rest later ∧
      given = block ++ (List.replicate pause (some .still) ++ later)

variable {g : Gains R} {rest : List (Segment R)} {given : List (Option (Command R))}

theorem unfolds_none (ended : Unfolds g [] given) : Unfolds g [] (none :: given) := by
  obtain ⟨n, rfl⟩ := ended
  exact ⟨n + 1, rfl⟩

theorem unfolds_turn {h w : R} (rate : w = g.turnSpeed ∨ w = -g.turnSpeed)
    (unfolds : Unfolds g (.turn h :: rest) given) :
    Unfolds g (.turn h :: rest) (some (.velocity ⟨0, 0, w⟩) :: given) := by
  obtain ⟨_, pause, later, ⟨rates, each, rfl⟩, settles, tail, rfl⟩ := unfolds
  refine ⟨_, pause, later, ⟨w :: rates, ?_, rfl⟩, settles, tail, rfl⟩
  intro v member
  rcases List.mem_cons.mp member with rfl | earlier
  · exact rate
  · exact each v earlier

theorem unfolds_travel {d c : R} (unfolds : Unfolds g (.travel d :: rest) given) :
    Unfolds g (.travel d :: rest) (some (.velocity ⟨g.travelSpeed, 0, c⟩) :: given) := by
  obtain ⟨_, pause, later, ⟨biases, moves, rfl⟩, settles, tail, rfl⟩ := unfolds
  exact ⟨_, pause, later, ⟨c :: biases, List.cons_ne_nil _ _, rfl⟩, settles, tail, rfl⟩

def Settles (g : Gains R) (rest : List (Segment R)) (given : List (Option (Command R))) : Prop :=
  ∃ pause later, (rest = [] ∨ Scalar.lt 0 g.segmentPause = false → pause = 0) ∧
    Unfolds g rest later ∧ given = List.replicate pause (some .still) ++ later

theorem unfolds_turn_stop {h : R} (settles : Settles g rest given) :
    Unfolds g (.turn h :: rest) (some .stop :: given) := by
  obtain ⟨pause, later, none_without, tail, rfl⟩ := settles
  exact ⟨[some .stop], pause, later, ⟨[], by simp, rfl⟩, none_without, tail, rfl⟩

theorem unfolds_travel_stop {d : R} (c : R) (settles : Settles g rest given) :
    Unfolds g (.travel d :: rest)
      (some (.velocity ⟨g.travelSpeed, 0, c⟩) :: some .stop :: given) := by
  obtain ⟨pause, later, none_without, tail, rfl⟩ := settles
  exact ⟨[some (.velocity ⟨g.travelSpeed, 0, c⟩), some .stop], pause, later,
    ⟨[c], by simp, rfl⟩, none_without, tail, rfl⟩

theorem unfolds_exists (g : Gains R) (plan : List (Segment R)) :
    ∃ given, Unfolds g plan given := by
  induction plan with
  | nil => exact ⟨[], 0, rfl⟩
  | cons s rest ih =>
    obtain ⟨later, tail⟩ := ih
    have settles : Settles g rest later := ⟨0, later, fun _ => rfl, tail, rfl⟩
    cases s with
    | turn h => exact ⟨_, unfolds_turn_stop settles⟩
    | travel d => exact ⟨_, unfolds_travel_stop 0 settles⟩

end Grammar

section Underway

variable {R : Type} [Scalar R]

structure Underway (g : Gains R) (n : Nat) (r : Runner R) : Prop where
  tuned : Tuned g r
  phase : r.phase = phaseOf r.plan
  counted : r.completed + r.plan.length = n
  turning : r.active = true → r.phase = .turning → r.turn.turning = true
  moving : r.active = true → r.pauseUntil = none
  ended : r.plan = [] → r.pauseUntil = none
  afar : ∀ d, .travel d ∈ r.plan → Scalar.le d 0 = false

/-- What the ticks give from here on, where no pause lasts. A travel that has begun has given a
velocity already, whatever it was. -/
def Continues (g : Gains R) (r : Runner R) (given : List (Option (Command R))) : Prop :=
  if r.active = true ∧ r.phase = .travelling then
    ∀ c, Unfolds g r.plan (some (.velocity ⟨g.travelSpeed, 0, c⟩) :: given)
  else Unfolds g r.plan given

def Remains (g : Gains R) (r : Runner R) (given : List (Option (Command R))) : Prop :=
  ∃ pause later, (r.pauseUntil = none → pause = 0) ∧ Continues g r later ∧
    given = List.replicate pause (some .still) ++ later

variable {g : Gains R} {n : Nat} {r s : Runner R}

theorem continues_of_remains {given : List (Option (Command R))} (ready : r.pauseUntil = none)
    (remains : Remains g r given) : Continues g r given := by
  obtain ⟨pause, later, none_left, continues, rfl⟩ := remains
  rw [none_left ready]
  exact continues

theorem remains_of_continues {given : List (Option (Command R))} (continues : Continues g r given) :
    Remains g r given :=
  ⟨0, given, fun _ => rfl, continues, rfl⟩

theorem continues_begun {given : List (Option (Command R))}
    (begun : r.active = true ∧ r.phase = .travelling) :
    Continues g r given ↔
      ∀ c, Unfolds g r.plan (some (.velocity ⟨g.travelSpeed, 0, c⟩) :: given) := by
  unfold Continues
  rw [if_pos begun]

theorem continues_anew {given : List (Option (Command R))}
    (not_begun : ¬ (r.active = true ∧ r.phase = .travelling)) :
    Continues g r given ↔ Unfolds g r.plan given := by
  unfold Continues
  rw [if_neg not_begun]

theorem continues_fresh {given : List (Option (Command R))} (fresh : r.active = false) :
    Continues g r given ↔ Unfolds g r.plan given :=
  continues_anew (by simp [fresh])

theorem travelling_plan (u : Underway g n r) (travelling : r.phase = .travelling) :
    ∃ d rest, r.plan = .travel d :: rest := by
  have phase := u.phase
  rw [travelling] at phase
  cases plan : r.plan with
  | nil => simp [plan, phaseOf] at phase
  | cons segment rest =>
    cases segment with
    | turn h => simp [plan, phaseOf] at phase
    | travel d => exact ⟨d, rest, rfl⟩

theorem remains_exists (u : Underway g n r) : ∃ given, Remains g r given := by
  by_cases begun : r.active = true ∧ r.phase = .travelling
  · obtain ⟨d, rest, plan⟩ := travelling_plan u begun.2
    obtain ⟨later, tail⟩ := unfolds_exists g rest
    have settles : Settles g rest later := ⟨0, later, fun _ => rfl, tail, rfl⟩
    refine ⟨some .stop :: later, remains_of_continues ?_⟩
    rw [continues_begun begun, plan]
    intro c
    exact unfolds_travel_stop c settles
  · obtain ⟨given, unfolds⟩ := unfolds_exists g r.plan
    exact ⟨given, remains_of_continues ((continues_anew begun).mpr unfolds)⟩

theorem advance_underway {segment : Segment R} {rest : List (Segment R)} (tuned : Tuned g r)
    (counted : r.completed + r.plan.length = n)
    (afar : ∀ d, .travel d ∈ r.plan → Scalar.le d 0 = false)
    (plan : r.plan = segment :: rest) (ready : r.pauseUntil = none) (now : R) :
    Underway g n (r.advance now).1 ∧ (r.advance now).1.completed = r.completed + 1 ∧
      ∀ given, Remains g (r.advance now).1 given → Settles g rest given := by
  obtain ⟨pauseUntil, eq, pauses⟩ := r.advance_only now
  rw [plan, ready, tuned.settings, List.tail_cons] at pauses
  rw [plan, List.tail_cons] at eq
  rw [eq]
  refine ⟨⟨⟨tuned.settings, tuned.speed⟩, rfl, ?_, ?_, ?_, ?_, ?_⟩, rfl, ?_⟩
  · rw [plan, List.length_cons] at counted
    change r.completed + 1 + rest.length = n
    omega
  · intro active
    cases active
  · intro active
    cases active
  · intro last
    rcases pauses with ⟨none_left, _⟩ | ⟨_, more, _⟩
    · exact none_left
    · exact absurd last more
  · intro d member
    apply afar d
    rw [plan]
    exact List.mem_cons_of_mem segment member
  · intro given remains
    obtain ⟨pause, later, none_left, continues, rfl⟩ := remains
    refine ⟨pause, later, ?_, ?_, rfl⟩
    · intro without
      rcases pauses with ⟨still, _⟩ | ⟨_, more, positive⟩
      · exact none_left still
      · rcases without with last | no_pause
        · exact absurd last more
        · rw [no_pause] at positive
          cases positive
    · rwa [continues_fresh rfl] at continues

theorem onTurn_underway {h : R} {rest : List (Segment R)} (on : OnTurn r h s) (u : Underway g n r)
    (plan : r.plan = .turn h :: rest) (ready : r.pauseUntil = none) :
    Underway g n s ∧ s.plan = .turn h :: rest ∧ s.pauseUntil = none ∧ s.phase = .turning ∧
      s.completed = r.completed ∧ s.turn.turning = true := by
  have phase := u.phase
  rw [plan] at phase
  cases on with
  | goesOn active => exact ⟨u, plan, ready, phase, rfl, u.turning active phase⟩
  | begins h fresh normal =>
    refine ⟨⟨⟨u.tuned.settings, u.tuned.speed⟩, u.phase, u.counted, ?_, ?_, u.ended, u.afar⟩, plan,
      ready, phase, rfl, rfl⟩
    · intro _ _
      rfl
    · intro _
      exact ready

theorem onTravel_underway {t : Instants R} {pose : Pose R} {d : R} {rest : List (Segment R)}
    (on : OnTravel r t pose s) (u : Underway g n r) (plan : r.plan = .travel d :: rest)
    (ready : r.pauseUntil = none) :
    Underway g n s ∧ s.plan = .travel d :: rest ∧ s.pauseUntil = none ∧ s.phase = .travelling ∧
      s.completed = r.completed ∧ s.active = true := by
  have phase := u.phase
  rw [plan] at phase
  cases on with
  | goesOn active => exact ⟨u, plan, ready, phase, rfl, active⟩
  | begins h fresh held =>
    refine ⟨⟨⟨u.tuned.settings, u.tuned.speed⟩, u.phase, u.counted, ?_, ?_, u.ended, u.afar⟩, plan,
      ready, phase, rfl, rfl⟩
    · intro _ turning
      rw [show (r.departed t pose h).phase = .travelling from phase] at turning
      cases turning
    · intro _
      exact ready

theorem idle_plan (u : Underway g n r) (rest : r.isRunning = false) : r.plan = [] := by
  cases plan : r.plan with
  | nil => rfl
  | cons segment later =>
    have phase := u.phase
    rw [plan] at phase
    cases segment <;> simp [isRunning, phase, phaseOf] at rest

theorem not_cancelled (u : Underway g n r) : r.phase ≠ .cancelled := by
  rw [u.phase]
  cases r.plan with
  | nil => simp [phaseOf]
  | cons segment later => cases segment <;> simp [phaseOf]

theorem start_underway {plan : List (Segment R)} {heading : Option R} (tuned : Tuned g r)
    (started : (r.start (plan.map .segment) heading).result = .ok ()) :
    let s := (r.start (plan.map .segment) heading).state
    Underway g plan.length s ∧ s.plan = plan ∧ s.completed = 0 ∧ s.active = false ∧
      s.pauseUntil = none ∧ s.isRunning = true := by
  intro s
  obtain ⟨checked, held, passed, begun⟩ := start_begins started
  obtain ⟨rfl, afar⟩ := Plan.check_segments passed
  have tuned' : Tuned g s := start_tuned tuned _ heading
  have running : s.isRunning = true := start_runs started
  rw [show s = _ from begun] at tuned' running ⊢
  refine ⟨⟨tuned', rfl, ?_, ?_, ?_, fun _ => rfl, afar⟩, rfl, rfl, rfl, rfl, running⟩
  · exact Nat.zero_add _
  · intro active
    cases active
  · intro active
    cases active

end Underway

section Doubles

variable {g : Gains Float} {n : Nat} {r s : Runner Float}

/-- No way at all has been made in the tick in which a travel begins, whether it is measured or
estimated, and however strange the pose and the clock are. -/
theorem departed_short {d : Float} (afar : Scalar.le d 0 = false) (r : Runner Float)
    (t : Instants Float) (pose : Pose Float) (h : Float) :
    Scalar.le d ((r.departed t pose h).travelled t pose) = false := by
  have above : ¬ d ≤ 0.0 := of_decide_eq_false afar
  have vanishes : Number.Vanishes ((r.departed t pose h).travelled t pose) := by
    unfold travelled measured departed
    cases r.source with
    | pose => exact Number.hypotenuse_self_vanishes pose.x pose.y
    | elapsed =>
      have no_time : Scalar.larger 0 (t.travel - t.travel) = (0.0 : Float) := by
        rcases Number.sub_self_cases t.travel with zero | no_value
        · rw [zero]; decide +kernel
        · rw [no_value]; decide +kernel
      change Number.Vanishes (r.gains.travelSpeed * Scalar.larger 0 (t.travel - t.travel))
      rw [no_time]
      exact Number.mul_zero_vanishes _
  exact decide_eq_false (Number.not_le_vanishing above vanishes)

theorem turn_continues {h : Float} {rest : List (Segment Float)}
    {given : List (Option (Command Float))} (u : Underway g n r) (plan : r.plan = .turn h :: rest) :
    Continues g r given ↔ Unfolds g (.turn h :: rest) given := by
  have phase := u.phase
  rw [plan] at phase
  rw [continues_anew (by simp [phase, phaseOf]), plan]

theorem driven_underway {t : Instants Float} {pose : Pose Float} {x : Option (Command Float)}
    (driven : Driven r t pose s (.ok x)) (u : Underway g n r) (ready : r.pauseUntil = none) :
    Underway g n s ∧ s.completed = r.completed + [x].count (some .stop) ∧
      ∀ given, Remains g s given → Continues g r (x :: given) := by
  cases driven with
  | passes h rest s plan on still =>
    obtain ⟨_, _, _, _, _, turning⟩ := onTurn_underway on u plan ready
    rw [turning] at still
    cases still
  | turns h rest s plan on turning e outside =>
    obtain ⟨u', plan', ready', _, same, _⟩ := onTurn_underway on u plan ready
    refine ⟨u', by simpa [Command.stop] using same, ?_⟩
    intro given remains
    have continues := continues_of_remains ready' remains
    rw [turn_continues u' plan'] at continues
    rw [turn_continues u plan]
    apply unfolds_turn _ continues
    unfold PointTurn.rate
    rw [u'.tuned.speed]
    split
    · exact .inl rfl
    · exact .inr rfl
  | arrives h rest s plan on turning e inside =>
    obtain ⟨u', plan', ready', _, same, _⟩ := onTurn_underway on u plan ready
    have tuned : Tuned g s.faced := ⟨u'.tuned.settings, u'.tuned.speed⟩
    obtain ⟨after, counted, settles⟩ :=
      advance_underway tuned u'.counted u'.afar plan' ready' t.finish
    refine ⟨after, ?_, ?_⟩
    · rw [counted, show s.faced.completed = r.completed from same]
      rfl
    · intro given remains
      rw [turn_continues u plan]
      exact unfolds_turn_stop (settles given remains)
  | travels d rest s plan on c biased short =>
    obtain ⟨u', plan', ready', phase', same, active'⟩ := onTravel_underway on u plan ready
    refine ⟨u', by simpa [Command.stop] using same, ?_⟩
    intro given remains
    have continues := continues_of_remains ready' remains
    rw [continues_begun ⟨active', phase'⟩, plan'] at continues
    rw [u'.tuned.settings]
    by_cases begun : r.active = true ∧ r.phase = .travelling
    · rw [continues_begun begun, plan]
      intro c'
      exact unfolds_travel (continues c)
    · rw [continues_anew begun, plan]
      exact continues c
  | completes d rest s plan on far =>
    obtain ⟨u', plan', ready', phase', same, active'⟩ := onTravel_underway on u plan ready
    obtain ⟨after, counted, settles⟩ :=
      advance_underway u'.tuned u'.counted u'.afar plan' ready' t.finish
    refine ⟨after, by rw [counted, same]; rfl, ?_⟩
    intro given remains
    cases on with
    | goesOn active =>
      rw [continues_begun ⟨active, phase'⟩, plan]
      intro c
      exact unfolds_travel_stop c (settles given remains)
    | begins h fresh held =>
      -- a travel is longer than nothing, which is what its first tick has covered
      have afar := u.afar d (by rw [plan]; exact List.mem_cons_self)
      rw [departed_short afar] at far
      cases far

theorem ticked_underway {t : Instants Float} {pose : Pose Float} {x : Option (Command Float)}
    (ticked : Ticked r t (some pose) s (.ok x)) (u : Underway g n r) :
    Underway g n s ∧ s.completed = r.completed + [x].count (some .stop) ∧
      ∀ given, Remains g s given → Remains g r (x :: given) := by
  cases ticked with
  | drains _ cancelled pending => exact absurd cancelled (not_cancelled u)
  | rests _ rest drained =>
    refine ⟨u, rfl, ?_⟩
    intro given remains
    have ended := idle_plan u rest
    have continues := continues_of_remains (u.ended ended) remains
    have still : ¬ (r.active = true ∧ r.phase = .travelling) := by simp [u.phase, ended, phaseOf]
    apply remains_of_continues
    rw [continues_anew still, ended] at continues ⊢
    exact unfolds_none continues
  | pauses _ running paused =>
    refine ⟨u, rfl, ?_⟩
    intro given remains
    obtain ⟨pause, later, none_left, continues, rfl⟩ := remains
    refine ⟨pause + 1, later, ?_, continues, rfl⟩
    intro ready
    simp [pausedAt, ready] at paused
  | drives _ running ready _ _ driven =>
    have free : Underway g n { r with pauseUntil := none } :=
      ⟨⟨u.tuned.settings, u.tuned.speed⟩, u.phase, u.counted, u.turning, fun _ => rfl, fun _ => rfl,
        u.afar⟩
    obtain ⟨after, counted, continues⟩ := driven_underway driven free rfl
    exact ⟨after, counted, fun given remains => remains_of_continues (continues given remains)⟩

end Doubles

end Quadruped.Runner

namespace Quadruped.Pilot

variable {g : Gains Float} {n : Nat} {p : Pilot Float}

/-- How many ticks of a flight are taken before any pose is there. -/
def blind {R : Type} (p : Pilot R) (acts : List (Act R)) : Nat :=
  if p.sampler.isReady then 0 else (acts.takeWhile Act.isTick).length

theorem attended_underway {acts : List (Act Float)} {results : List (Option (Command Float))}
    (u : p.runner.Underway g n) (ready : p.sampler.isReady = true)
    (attended : ∀ a ∈ acts, a.attends = true) (given : (p.fly acts).2 = results.map .ok) :
    (p.fly acts).1.runner.Underway g n ∧
      (p.fly acts).1.runner.completed = p.runner.completed + results.count (some .stop) ∧
      ∀ later, Runner.Remains g (p.fly acts).1.runner later →
        Runner.Remains g p.runner (results ++ later) := by
  -- what is to come after the whole flight is carried back over its acts, one result at a time
  induction acts generalizing p results with
  | nil =>
    cases List.map_eq_nil_iff.mp given.symm
    exact ⟨u, rfl, fun later remains => remains⟩
  | cons a rest ih =>
    obtain ⟨attends, others⟩ := List.forall_mem_cons.mp attended
    have stays := act_stays_ready p a ready
    cases a with
    | start | cancel => cases attends
    | hear pose => exact ih u stays others given
    | tick t =>
      cases results with
      | nil => cases given
      | cons x later =>
        obtain ⟨first, given⟩ := List.cons_eq_cons.mp given
        obtain ⟨pose, heard⟩ := Option.isSome_iff_exists.mp ready
        have ticked := Runner.tickAt_ticked p.runner t p.sampler.slot.value
        rw [show (p.runner.tickAt t p.sampler.slot.value).result = .ok x from first, heard] at ticked
        obtain ⟨u', counted, remains⟩ := Runner.ticked_underway ticked u
        rw [← heard] at u' counted remains
        obtain ⟨after, total, residue⟩ := ih (p := (p.act (.tick t)).1) u' stays others given
        refine ⟨after, ?_, ?_⟩
        · rw [fly_cons, total, List.count_cons]
          change (p.runner.tickAt t p.sampler.slot.value).state.completed + _ = _
          rw [counted, List.count_singleton]
          omega
        · intro whole left
          exact remains _ (residue whole left)

theorem blind_tick (u : p.runner.Underway g n) (running : p.runner.isRunning = true)
    (free : p.runner.pauseUntil = none) (unheard : p.sampler.isReady = false) (t : Instants Float) :
    p.act (.tick t) = (p, [.ok (some .still)]) := by
  have no_pose : p.sampler.slot.value = none := by simpa [Sampler.isReady] using unheard
  have same : { p.runner with pauseUntil := none } = p.runner := by rw [← free]
  have ticked : p.runner.tickAt t none = .ok p.runner (some .still) [.awaitingPose] := by
    simp [Runner.tickAt, Runner.not_cancelled u, running, Runner.pausedAt, free, same]
  simp [act, tickAt, no_pose, ticked]

theorem flight_underway {acts : List (Act Float)} {results : List (Option (Command Float))}
    (u : p.runner.Underway g n) (running : p.runner.isRunning = true)
    (free : p.runner.pauseUntil = none) (attended : ∀ a ∈ acts, a.attends = true)
    (given : (p.fly acts).2 = results.map .ok) :
    (p.fly acts).1.runner.Underway g n ∧
      (p.fly acts).1.runner.completed = p.runner.completed + results.count (some .stop) ∧
      ∃ whole, Runner.Remains g p.runner whole ∧
        results <+: List.replicate (p.blind acts) (some .still) ++ whole := by
  by_cases ready : p.sampler.isReady = true
  · obtain ⟨after, counted, residue⟩ := attended_underway u ready attended given
    obtain ⟨later, remains⟩ := Runner.remains_exists after
    refine ⟨after, counted, results ++ later, residue later remains, ?_⟩
    simp [blind, ready]
  · have unheard : p.sampler.isReady = false := by simpa using ready
    induction acts generalizing results with
    | nil =>
      cases List.map_eq_nil_iff.mp given.symm
      obtain ⟨later, remains⟩ := Runner.remains_exists u
      exact ⟨u, rfl, later, remains, List.nil_prefix⟩
    | cons a rest ih =>
      obtain ⟨attends, others⟩ := List.forall_mem_cons.mp attended
      cases a with
      | start | cancel => cases attends
      | hear pose =>
        obtain ⟨after, counted, residue⟩ :=
          attended_underway (p := (p.hear pose).1) u rfl others given
        obtain ⟨later, remains⟩ := Runner.remains_exists after
        refine ⟨after, counted, results ++ later, residue later remains, ?_⟩
        simp [blind, unheard, Act.isTick]
      | tick t =>
        rw [fly_cons, blind_tick u running free unheard t] at given ⊢
        cases results with
        | nil => cases given
        | cons x later =>
          obtain ⟨first, tail⟩ := List.cons_eq_cons.mp given
          cases first
          obtain ⟨after, counted, whole, remains, begins⟩ := ih others tail
          refine ⟨after, ?_, whole, remains, ?_⟩
          · rw [counted, List.count_cons_of_ne]
            simp [Command.stop, Command.still]
          · have one_more : p.blind (.tick t :: rest) = p.blind rest + 1 := by
              simp [blind, unheard, Act.isTick, List.takeWhile_cons]
            rw [one_more, List.replicate_succ]
            exact List.cons_prefix_cons.mpr ⟨rfl, begins⟩

/-- The ticks of a plan that is left to run give, first, a still velocity for every tick that comes
before any pose, and then the segments in order, each with one stop at its end and a pause after it;
after the last one nothing. The stops that have been given count the segments completed. -/
theorem ticks_unfold_the_plan {source : String} {runner : Runner Float}
    (made : Runner.create g source = .ok runner) (earlier acts : List (Act Float))
    (plan : List (Segment Float)) (heading : Option Float) (results : List (Option (Command Float)))
    (started : (((ofRunner runner).fly earlier).1.start (plan.map .segment) heading).result = .ok ())
    (attended : ∀ a ∈ acts, a.attends = true) :
    let p := (((ofRunner runner).fly earlier).1.start (plan.map .segment) heading).state
    let q := (p.fly acts).1
    (p.fly acts).2 = results.map .ok →
      (∃ whole, Runner.Unfolds g plan whole ∧
        results <+: List.replicate (p.blind acts) (some .still) ++ whole) ∧
      q.runner.completed = results.count (some .stop) ∧
      q.runner.completed + q.runner.remaining = plan.length := by
  intro p q given
  have tuned : ((ofRunner runner).fly earlier).1.runner.Tuned g :=
    fly_keeps (P := fun p => p.runner.Tuned g) act_tuned earlier (Runner.create_tuned made)
  obtain ⟨u, whole_plan, none_done, fresh, free, running⟩ := Runner.start_underway tuned started
  obtain ⟨after, counted, whole, remains, begins⟩ :=
    flight_underway (p := p) u running free attended given
  have continues := Runner.continues_of_remains free remains
  rw [Runner.continues_fresh fresh, whole_plan] at continues
  rw [show p.runner.completed = 0 from none_done, Nat.zero_add] at counted
  exact ⟨⟨whole, continues, begins⟩, counted, after.counted⟩

/-- A short travel and a turn that has arrived as it begins, after a plan that was cancelled. The
first tick comes before any pose. -/
theorem travel_and_turn_unfold :
    let earlier : List (Act Float) :=
      [.start [.segment (.travel 1)] none, .cancel, .tick ⟨0, 0, 0⟩]
    let acts : List (Act Float) :=
      [.tick ⟨0, 0, 0⟩, .hear ⟨0, 0, 0, 0, 0⟩, .tick ⟨0.01, 0.01, 0.01⟩, .tick ⟨0.04, 0.04, 0.05⟩,
        .tick ⟨0.5, 0.5, 0.5⟩, .tick ⟨1.1, 1.1, 1.1⟩, .tick ⟨1.2, 1.2, 1.2⟩]
    let plan : List (Segment Float) := [.travel 0.01, .turn 0]
    let results : List (Option (Command Float)) :=
      [some .still, some (.velocity ⟨0.5, 0, 0⟩), some .stop, some .still, some .stop, none]
    let begun := (((ofRunner .standard).fly earlier).1.start (plan.map .segment) none)
    Runner.create .standard "elapsed" = .ok .standard ∧ begun.result = .ok () ∧
      (∀ a ∈ acts, a.attends = true) ∧ (begun.state.fly acts).2 = results.map .ok ∧
      begun.state.blind acts = 1 ∧
      (∃ whole, Runner.Unfolds .standard plan whole ∧
        results <+: List.replicate (begun.state.blind acts) (some .still) ++ whole) ∧
      (begun.state.fly acts).1.runner.completed = results.count (some .stop) ∧
      (begun.state.fly acts).1.runner.completed + (begun.state.fly acts).1.runner.remaining =
        plan.length := by
  intro earlier acts plan results begun
  have made : Runner.create .standard "elapsed" = .ok .standard := by rfl
  have started : begun.result = .ok () := by decide +kernel
  have attended : ∀ a ∈ acts, a.attends = true := by simp [acts, Act.attends]
  have given : (begun.state.fly acts).2 = results.map .ok := by decide +kernel
  obtain ⟨unfolds, counted, total⟩ :=
    ticks_unfold_the_plan made earlier acts plan none results started attended given
  refine ⟨made, started, attended, given, by decide +kernel, unfolds, ?_, ?_⟩
  · simpa only [begun] using counted
  · simpa only [begun] using total

end Quadruped.Pilot
