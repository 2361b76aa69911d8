import Quadruped.Proofs.Plan.Consistent
import Quadruped.Proofs.Plan.PlanTrace

/-!
The time that a plan keeps. The pause after a segment is counted from its stop, and a travel from its
own first tick, by the clock or by the place where that tick found the robot. Neither is counted from
anything that came before it.
-/
namespace Quadruped

open Scalar

/-- How far a travel has come by a later tick, having set out at `t` from a pose. -/
def DistanceSource.way {R : Type} [Scalar R] (source : DistanceSource) (speed : R)
    (t now : Instants R) (start here : Pose R) : R :=
  match source with
  | .elapsed => speed * larger 0 (now.travel - t.travel)
  | .pose => hypot (here.x - start.x) (here.y - start.y)

/-- Whether the pause after a stop given at `t` lasts until a later tick. -/
def Gains.pauseLasts {R : Type} [Scalar R] (g : Gains R) (t now : Instants R) : Bool :=
  lt 0 g.segmentPause && lt now.pause (t.finish + g.segmentPause)

namespace Runner

section Pause

variable {R : Type} [Scalar R] {r s : Runner R} {t : Instants R} {pose : Pose R}

/-- The pause before the next segment is the one of a stop given at `t`. -/
def Awaits (g : Gains R) (t : Instants R) (r : Runner R) : Prop :=
  r.pauseUntil = if lt 0 g.segmentPause then some (t.finish + g.segmentPause) else none

theorem awaits_paused {g : Gains R} (awaits : r.Awaits g t) (now : Instants R) :
    r.pausedAt now.pause = g.pauseLasts t now := by
  unfold Awaits at awaits
  unfold pausedAt Gains.pauseLasts
  cases pause : lt 0 g.segmentPause with
  | true => simp [awaits, pause]
  | false => simp [awaits, pause]

theorem advance_awaits (ready : r.pauseUntil = none) (more : r.plan.tail ≠ []) (t : Instants R) :
    (r.advance t.finish).1.Awaits r.gains t := by
  obtain ⟨pauseUntil, eq, pauses⟩ := r.advance_only t.finish
  rw [eq]
  change pauseUntil = _
  rcases pauses with ⟨same, last | no_pause⟩ | ⟨later, _, positive⟩
  · exact absurd last more
  · rw [same, ready, no_pause]
    rfl
  · rw [later, positive]
    rfl

theorem driven_stop_awaits {g : Gains R} {n : Nat} (driven : Driven r t pose s (.ok (some .stop)))
    (u : Underway g n r) (ready : r.pauseUntil = none) (more : r.completed + 1 < n) :
    s.Awaits g t := by
  have ends {s : Runner R} (settings : s.gains = g) (counted : s.completed + s.plan.length = n)
      (ready : s.pauseUntil = none) (same : s.completed = r.completed) :
      (s.advance t.finish).1.Awaits g t := by
    have left : s.plan.tail ≠ [] := by
      intro last
      have length := congrArg List.length last
      rw [List.length_tail, List.length_nil] at length
      omega
    have awaits := advance_awaits ready left t
    rwa [settings] at awaits
  generalize result : (.ok (some .stop) : Given R) = given at driven
  cases driven with
  | grounded | misdirected | passes | turnFails | strays | travelFails => cases result
  | turns | travels => simp [Command.stop] at result
  | arrives h rest s plan on =>
    obtain ⟨begun, _, ready', _, same, _⟩ := onTurn_underway on u plan ready
    exact ends (s := s.faced) begun.tuned.settings begun.counted ready' same
  | completes d rest s plan on =>
    obtain ⟨begun, _, ready', _, same, _⟩ := onTravel_underway on u plan ready
    exact ends begun.tuned.settings begun.counted ready' same

theorem driven_begins {x : Option (Command R)} (driven : Driven r t pose s (.ok x)) :
    s.active = true ∨ s.completed = r.completed + 1 := by
  cases driven with
  | passes h rest s plan on =>
    have same : s.completed = r.completed := onTurn_completed on
    exact .inr (by rw [advance_completed, same])
  | arrives h rest s plan on =>
    have same : s.completed = r.completed := onTurn_completed on
    exact .inr (by rw [advance_completed]; exact congrArg (· + 1) same)
  | completes d rest s plan on => exact .inr (by rw [advance_completed, onTravel_completed on])
  | turns h rest s plan on => cases on with
    | goesOn active => exact .inl active
    | begins => exact .inl rfl
  | travels d rest s plan on => cases on with
    | goesOn active => exact .inl active
    | begins => exact .inl rfl

theorem tickAt_paused (running : r.isRunning = true) (paused : r.pausedAt t.pause = true)
    (sample : Option (Pose R)) : r.tickAt t sample = .ok r (some .still) [] := by
  unfold tickAt
  rw [if_neg (running_not_cancelled running), if_neg (by simp [running]), if_pos paused]

end Pause

section Travel

variable {r s : Runner Float} {d : Float} {t u : Instants Float} {start here : Pose Float}

/-- A travel under way that set out at `t` from a pose. -/
structure Covers (d : Float) (t : Instants Float) (start : Pose Float) (r : Runner Float) : Prop where
  plan : ∃ rest, r.plan = .travel d :: rest
  active : r.active = true
  ready : r.pauseUntil = none
  running : r.isRunning = true
  since : r.travelStart = t.travel
  origin : r.travelOrigin = (start.x, start.y)

theorem covers_travelled (covers : r.Covers d t start) (u : Instants Float) (here : Pose Float) :
    r.travelled u here = r.source.way r.gains.travelSpeed t u start here := by
  unfold travelled measured
  rw [covers.since, covers.origin]
  cases r.source with
  | elapsed => rfl
  | pose => rfl

theorem driven_sets_out {rest : List (Segment Float)} {x : Option (Command Float)}
    (driven : Driven r t start s (.ok x)) (plan : r.plan = .travel d :: rest)
    (fresh : r.active = false) (ready : r.pauseUntil = none) (running : r.isRunning = true)
    (afar : le d 0 = false) : s.Covers d t start ∧ ∃ v, x = some (.velocity v) := by
  cases driven with
  | passes h rest' s plan' | turns h rest' s plan' | arrives h rest' s plan' =>
    cases plan.symm.trans plan'
  | travels d' rest' s plan' on c =>
    cases plan.symm.trans plan'
    cases on with
    | goesOn active => cases fresh.symm.trans active
    | begins h => exact ⟨⟨⟨rest, plan⟩, rfl, ready, running, rfl, rfl⟩, _, rfl⟩
  | completes d' rest' s plan' on far =>
    cases plan.symm.trans plan'
    cases on with
    | goesOn active => cases fresh.symm.trans active
    | begins h => cases (departed_short afar r t start h).symm.trans far

theorem covers_ticked {x : Option (Command Float)} (covers : r.Covers d t start)
    (ticked : Ticked r u (some here) s (.ok x)) :
    (le d (r.source.way r.gains.travelSpeed t u start here) = true → x = some .stop) ∧
      (le d (r.source.way r.gains.travelSpeed t u start here) = false →
        s = r ∧ ∃ v, x = some (.velocity v)) := by
  rw [← covers_travelled covers]
  obtain ⟨rest, plan⟩ := covers.plan
  have same : { r with pauseUntil := none } = r := by rw [← covers.ready]
  cases ticked with
  | drains _ cancelled => exact absurd cancelled (running_not_cancelled covers.running)
  | rests _ idle => cases idle.symm.trans covers.running
  | pauses _ _ paused => simp [pausedAt, covers.ready] at paused
  | drives _ _ _ s given driven =>
    rw [same] at driven
    cases driven with
    | passes h rest' s plan' | turns h rest' s plan' | arrives h rest' s plan' =>
      cases plan.symm.trans plan'
    | travels d' rest' s plan' on c biased short =>
      cases plan.symm.trans plan'
      cases on with
      | goesOn active => exact ⟨fun far => (by cases short.symm.trans far), fun _ => ⟨rfl, _, rfl⟩⟩
      | begins h fresh => cases fresh.symm.trans covers.active
    | completes d' rest' s plan' on far =>
      cases plan.symm.trans plan'
      cases on with
      | goesOn active => exact ⟨fun _ => rfl, fun short => (by cases short.symm.trans far)⟩
      | begins h fresh => cases fresh.symm.trans covers.active

theorem ticked_stop_awaits {g : Gains Float} {n : Nat} {sample : Option (Pose Float)}
    (ticked : Ticked r t sample s (.ok (some .stop))) (u : Underway g n r)
    (more : r.completed + 1 < n) :
    (∃ pose, sample = some pose) ∧ Underway g n s ∧ s.completed = r.completed + 1 ∧
      s.Awaits g t := by
  have free : Underway g n { r with pauseUntil := none } :=
    { u with tuned := ⟨u.tuned.settings, u.tuned.speed⟩, moving := fun _ => rfl, ended := fun _ => rfl }
  generalize result : (.ok (some .stop) : Given Float) = given at ticked
  cases ticked with
  | drains _ cancelled => exact absurd cancelled (not_cancelled u)
  | rests => cases result
  | pauses | waits => simp [Command.stop, Command.still] at result
  | drives pose running ready s given driven =>
    rw [← result] at driven
    obtain ⟨after, counted, _⟩ := driven_underway driven free rfl
    exact ⟨⟨pose, rfl⟩, after, by simpa using counted, driven_stop_awaits driven free rfl more⟩

theorem underway_runs {g : Gains Float} {n : Nat} {segment : Segment Float}
    {rest : List (Segment Float)} (u : Underway g n r) (plan : r.plan = segment :: rest) :
    r.isRunning = true := by
  cases running : r.isRunning with
  | true => rfl
  | false => cases plan.symm.trans (idle_plan u running)

end Travel

end Runner

namespace Pilot

section
variable {R : Type} [Scalar R] {p : Pilot R} {t : Instants R}

theorem looks_driving {segment : Segment R} {rest : List (Segment R)} {pose : Pose R}
    (looks : p.runner.looks t = true) (plan : p.runner.plan = segment :: rest)
    (heard : p.sampler.slot.value = some pose) : p.driving t = some (segment, pose) := by
  simp [driving, looks, plan, heard]

theorem fly_paused (running : p.runner.isRunning = true) {acts : List (Act R)}
    (paused : ∀ a ∈ acts, a.attends = true ∧
      ∀ t, a = .tick t → p.runner.pausedAt t.pause = true) :
    (p.fly acts).1.runner = p.runner ∧
      (p.fly acts).2 = List.replicate (acts.countP Act.isTick) (.ok (some .still)) := by
  apply fly_untouched
  intro q same a member
  obtain ⟨attends, lasts⟩ := paused a member
  cases a with
  | start | cancel => cases attends
  | hear pose => exact ⟨same, rfl⟩
  | tick t =>
    have ticked := Runner.tickAt_paused running (lasts t rfl) q.sampler.slot.value
    rw [← same] at ticked ⊢
    exact ⟨congrArg Outcome.state ticked, congrArg (fun o : Outcome _ _ _ => [o.result]) ticked⟩

end

variable {p : Pilot Float} {d : Float} {t : Instants Float} {start : Pose Float}

theorem fly_covers (covers : p.runner.Covers d t start) (ready : p.sampler.isReady = true)
    {acts : List (Act Float)} {results : List (Option (Command Float))}
    (attended : ∀ a ∈ acts, a.attends = true) (given : (p.fly acts).2 = results.map .ok)
    (unstopped : some .stop ∉ results) :
    (p.fly acts).1.runner = p.runner ∧ (p.fly acts).1.sampler.isReady = true := by
  induction acts generalizing p results with
  | nil => exact ⟨rfl, ready⟩
  | cons a rest ih =>
    obtain ⟨attends, others⟩ := List.forall_mem_cons.mp attended
    have stays := act_stays_ready p a ready
    cases a with
    | start | cancel => cases attends
    | hear pose => exact ih covers stays others given unstopped
    | tick u =>
      obtain ⟨x, later, rfl, first, tail⟩ := List.map_eq_cons_iff.mp given.symm
      obtain ⟨here, heard⟩ := Option.isSome_iff_exists.mp ready
      have ticked := Runner.tickAt_ticked p.runner u p.sampler.slot.value
      rw [show (p.runner.tickAt u p.sampler.slot.value).result = .ok x from first.symm, heard] at ticked
      obtain ⟨stops, goes_on⟩ := Runner.covers_ticked covers ticked
      cases far : le d (p.runner.source.way p.runner.gains.travelSpeed t u start here) with
      | true => exact absurd (List.mem_cons.mpr (.inl (stops far).symm)) unstopped
      | false =>
        have same : (p.act (.tick u)).1.runner = p.runner := by
          rw [← (goes_on far).1, ← heard]
          rfl
        obtain ⟨after, ready'⟩ := ih (p := (p.act (.tick u)).1) (same ▸ covers) stays others tail.symm
          fun member => unstopped (List.mem_cons_of_mem x member)
        exact ⟨after.trans same, ready'⟩

/-- As long as the pause after the stop given at `t` lasts, the ticks give still velocities and leave
the plan as it is; the first tick after it drives the next segment. -/
def KeepsPause (p : Pilot Float) (g : Gains Float) (plan : List (Segment Float)) (t : Instants Float) :
    Prop :=
  ∀ more : List (Act Float),
    (∀ a ∈ more, a.attends = true ∧ ∀ u, a = .tick u → g.pauseLasts t u = true) →
    let stopped := (p.act (.tick t)).1
    let rested := stopped.fly more
    rested.2 = List.replicate (more.countP Act.isTick) (.ok (some .still)) ∧
      rested.1.runner = stopped.runner ∧
      ∀ u, g.pauseLasts t u = false → ∃ segment pose,
        plan[p.runner.completed + 1]? = some segment ∧ rested.1.driving u = some (segment, pose) ∧
        ∀ x, (rested.1.tickAt u).result = .ok x →
          let next := (rested.1.act (.tick u)).1.runner
          next.active = true ∨ next.completed = p.runner.completed + 2

/-- As long as the travel that sets out at `t` has given no stop, a tick of it gives one just where the
distance is covered by then, and a velocity else. -/
def KeepsDistance (p : Pilot Float) (g : Gains Float) (source : DistanceSource) (d : Float)
    (t : Instants Float) (start : Pose Float) : Prop :=
  ∀ (more : List (Act Float)) (results : List (Option (Command Float))),
    (∀ a ∈ more, a.attends = true) → ((p.act (.tick t)).1.fly more).2 = results.map .ok →
    some .stop ∉ results →
    let next := ((p.act (.tick t)).1.fly more).1
    ∀ u y, (next.tickAt u).result = .ok y → ∃ here, next.driving u = some (.travel d, here) ∧
      (le d (source.way g.travelSpeed t u start here) = true → y = some .stop) ∧
      (le d (source.way g.travelSpeed t u start here) = false → ∃ v, y = some (.velocity v))

section
variable {g : Gains Float} {n : Nat} {plan : List (Segment Float)}

theorem stop_leaves (u : p.runner.Underway g n)
    (stops : (p.tickAt t).result = .ok (some .stop)) (more : p.runner.completed + 1 < n) :
    let stopped := (p.act (.tick t)).1
    (∃ segment rest, stopped.runner.plan = segment :: rest) ∧ stopped.runner.isRunning = true ∧
      stopped.runner.completed = p.runner.completed + 1 ∧ stopped.runner.Awaits g t ∧
      stopped.sampler.isReady = true := by
  intro stopped
  have ticked := Runner.tickAt_ticked p.runner t p.sampler.slot.value
  rw [show (p.runner.tickAt t p.sampler.slot.value).result = .ok (some .stop) from stops] at ticked
  obtain ⟨⟨pose, heard⟩, after, counted, awaits⟩ := Runner.ticked_stop_awaits ticked u more
  have ready : p.sampler.isReady = true := by simp [Sampler.isReady, heard]
  obtain ⟨segment, rest, left⟩ : ∃ segment rest, stopped.runner.plan = segment :: rest := by
    apply List.exists_cons_of_ne_nil
    intro ended
    have total : stopped.runner.completed + stopped.runner.plan.length = n := after.counted
    rw [ended, List.length_nil] at total
    have done : stopped.runner.completed = p.runner.completed + 1 := counted
    omega
  exact ⟨⟨segment, rest, left⟩, Runner.underway_runs after left, counted, awaits,
    act_stays_ready p (.tick t) ready⟩

theorem stop_keeps_pause (u : p.runner.Underway g plan.length) (before : p.runner.Consistent plan)
    (stops : (p.tickAt t).result = .ok (some .stop)) (more : p.runner.completed + 1 < plan.length) :
    p.KeepsPause g plan t := by
  intro acts lasting stopped rested
  obtain ⟨⟨segment, rest, left⟩, running, counted, awaits, ready⟩ := stop_leaves u stops more
  have consistent : stopped.runner.Consistent plan := act_consistent (a := .tick t) trivial before
  obtain ⟨same, given⟩ : rested.1.runner = stopped.runner ∧ rested.2 = _ := by
    apply fly_paused running
    intro a member
    obtain ⟨attends, lasts⟩ := lasting a member
    exact ⟨attends, fun u tick => (Runner.awaits_paused awaits u).trans (lasts u tick)⟩
  refine ⟨given, same, ?_⟩
  intro v passed
  have looks : rested.1.runner.looks v = true := by
    rw [same, Runner.looks, running, Runner.awaits_paused awaits, passed]
    rfl
  have heard : rested.1.sampler.isReady = true :=
    fly_keeps (P := fun q => q.sampler.isReady = true) act_stays_ready acts ready
  obtain ⟨pose, newest⟩ := Option.isSome_iff_exists.mp heard
  have drives := looks_driving looks (same ▸ left) newest
  refine ⟨segment, pose, counted ▸ Runner.consistent_next consistent left, drives, ?_⟩
  intro x given next
  obtain ⟨_, _, driven⟩ := driving_driven drives
  rw [given] at driven
  rcases Runner.driven_begins driven with active | done
  · exact .inl active
  · refine .inr (done.trans ?_)
    change rested.1.runner.completed + 1 = _
    rw [same, counted]

theorem travel_keeps_distance {x : Option (Command Float)} (u : p.runner.Underway g n)
    (drives : p.driving t = some (.travel d, start)) (fresh : p.runner.active = false)
    (given : (p.tickAt t).result = .ok x) :
    (∃ v, x = some (.velocity v)) ∧ p.KeepsDistance g p.runner.source d t start := by
  obtain ⟨⟨rest, plan⟩, heard, driven⟩ := driving_driven drives
  rw [given] at driven
  have running : p.runner.isRunning = true := Runner.underway_runs u plan
  have afar : le d 0 = false := u.afar d (plan ▸ List.mem_cons_self)
  obtain ⟨covers, moves⟩ := Runner.driven_sets_out driven plan fresh rfl running afar
  refine ⟨moves, ?_⟩
  have ready : p.sampler.isReady = true := by simp [Sampler.isReady, heard]
  intro more results attended more_given unstopped next v y result
  obtain ⟨same, heard'⟩ :=
    fly_covers covers (act_stays_ready p (.tick t) ready) attended more_given unstopped
  obtain ⟨here, newest⟩ := Option.isSome_iff_exists.mp heard'
  have covers : next.runner.Covers d t start := same ▸ covers
  have looks : next.runner.looks v = true := by
    simp [Runner.looks, covers.running, Runner.pausedAt, covers.ready]
  obtain ⟨later, left⟩ := covers.plan
  refine ⟨here, looks_driving looks left newest, ?_⟩
  have ticked := Runner.tickAt_ticked next.runner v next.sampler.slot.value
  rw [show (next.runner.tickAt v next.sampler.slot.value).result = .ok y from result, newest] at ticked
  have tuned : next.runner.Tuned g :=
    fly_keeps (P := fun q => q.runner.Tuned g) act_tuned (.tick t :: more) u.tuned
  have source : next.runner.source = p.runner.source := fly_source p (.tick t :: more)
  obtain ⟨stops, goes_on⟩ := Runner.covers_ticked covers ticked
  rw [tuned.settings, source] at stops goes_on
  exact ⟨stops, fun short => (goes_on short).2⟩

end

/-- In every plan the pause after a segment that is not the last is counted from its stop, and a travel
from its own first tick, which is never its last. Whatever came before, a pause or another segment,
counts for neither. -/
theorem pauses_and_travels_keep_time {g : Gains Float} {source : String} {runner : Runner Float}
    (made : Runner.create g source = .ok runner) (earlier acts : List (Act Float))
    (plan : List (Segment Float)) (heading : Option Float)
    (started : (((ofRunner runner).fly earlier).1.start (plan.map .segment) heading).result = .ok ())
    (attended : ∀ a ∈ acts, a.attends = true) :
    let p := (((ofRunner runner).fly earlier).1.start (plan.map .segment) heading).state
    let q := (p.fly acts).1
    p.Calm acts → ∀ t x, (q.tickAt t).result = .ok x →
      (x = some .stop → q.runner.completed + 1 < plan.length → q.KeepsPause g plan t) ∧
      ∀ d start, q.driving t = some (.travel d, start) → q.runner.active = false →
        (∃ v, x = some (.velocity v)) ∧ q.KeepsDistance g runner.source d t start := by
  intro p q calm t x given
  obtain ⟨results, results_given⟩ := calm
  have tuned : ((ofRunner runner).fly earlier).1.runner.Tuned g :=
    fly_keeps (P := fun p => p.runner.Tuned g) act_tuned earlier (Runner.create_tuned made)
  obtain ⟨begun, _, _, _, free, running⟩ := Runner.start_underway tuned started
  obtain ⟨u, _⟩ := flight_underway (p := p) begun running free attended results_given
  obtain ⟨checked, _, passed, _⟩ := Runner.start_begins started
  obtain ⟨rfl, _⟩ := Plan.check_segments passed
  have consistent : q.runner.Consistent checked :=
    attended_consistent attended (Runner.begun_consistent passed started)
  have same_source : q.runner.source = runner.source := by
    have first := act_source ((ofRunner runner).fly earlier).1 (.start (checked.map .segment) heading)
    exact ((fly_source p acts).trans first).trans (fly_source (ofRunner runner) earlier)
  constructor
  · rintro rfl more
    exact stop_keeps_pause u consistent given more
  · intro d start drives fresh
    rw [← same_source]
    exact travel_keeps_distance u drives fresh given

/-- A turn that has arrived as it begins stops at 2; the pause of one second lasts at 2.9 and not at 3,
where the travel sets out. At 4, not before, it has covered its half metre. -/
theorem turn_and_travel_keep_time :
    let plan : List (Segment Float) := [.turn 0, .travel 0.5]
    let begun := ((ofRunner .standard).fly []).1.start (plan.map .segment) none
    let acts : List (Act Float) := [.hear ⟨0, 0, 0, 0, 0⟩]
    let others : List (Act Float) := acts ++ [.tick ⟨2, 2, 2⟩, .tick ⟨2.9, 2.9, 2.9⟩]
    let p := (begun.state.fly acts).1
    let q := (begun.state.fly others).1
    Runner.create .standard "elapsed" = .ok .standard ∧ begun.result = .ok () ∧
      (∀ a ∈ others, a.attends = true) ∧ begun.state.Calm acts ∧ begun.state.Calm others ∧
      (p.tickAt ⟨2, 2, 2⟩).result = .ok (some .stop) ∧ p.runner.completed + 1 < plan.length ∧
      Gains.standard.pauseLasts ⟨2, 2, 2⟩ ⟨2.9, 2.9, 2.9⟩ = true ∧
      Gains.standard.pauseLasts ⟨2, 2, 2⟩ ⟨3, 3, 3⟩ = false ∧
      p.KeepsPause .standard plan ⟨2, 2, 2⟩ ∧
      q.driving ⟨3, 3, 3⟩ = some (.travel 0.5, ⟨0, 0, 0, 0, 0⟩) ∧ q.runner.active = false ∧
      (q.tickAt ⟨3, 3, 3⟩).result = .ok (some (.velocity ⟨0.5, 0, 0⟩)) ∧
      q.KeepsDistance .standard .elapsed 0.5 ⟨3, 3, 3⟩ ⟨0, 0, 0, 0, 0⟩ ∧
      (q.fly [.tick ⟨3, 3, 3⟩, .tick ⟨3.9, 3.9, 3.9⟩, .tick ⟨4, 4, 4⟩]).2 =
        [.ok (some (.velocity ⟨0.5, 0, 0⟩)), .ok (some (.velocity ⟨0.5, 0, 0⟩)), .ok (some .stop)] := by
  intro plan begun acts others p q
  have made : Runner.create .standard "elapsed" = .ok .standard := by rfl
  have started : begun.result = .ok () := by decide +kernel
  have attended : ∀ a ∈ others, a.attends = true := by simp [others, acts, Act.attends]
  have first : ∀ a ∈ acts, a.attends = true := by simp [acts, Act.attends]
  have calm : begun.state.Calm acts := ⟨[], by decide +kernel⟩
  have calm_others : begun.state.Calm others := ⟨[some .stop, some .still], by decide +kernel⟩
  have stops : (p.tickAt ⟨2, 2, 2⟩).result = .ok (some .stop) := by decide +kernel
  have more : p.runner.completed + 1 < plan.length := by decide +kernel
  have drives : q.driving ⟨3, 3, 3⟩ = some (.travel 0.5, ⟨0, 0, 0, 0, 0⟩) := by decide +kernel
  have fresh : q.runner.active = false := by decide +kernel
  have moves : (q.tickAt ⟨3, 3, 3⟩).result = .ok (some (.velocity ⟨0.5, 0, 0⟩)) := by decide +kernel
  have pause := (pauses_and_travels_keep_time made [] acts plan none started first calm _ _ stops).1
    rfl (by decide +kernel)
  have travel :=
    ((pauses_and_travels_keep_time made [] others plan none started attended calm_others _ _ moves).2
      _ _ drives (by decide +kernel)).2
  exact ⟨made, started, attended, calm, calm_others, stops, more, by decide +kernel,
    by decide +kernel, pause, drives, fresh, moves, travel, by decide +kernel⟩

end Pilot
end Quadruped
