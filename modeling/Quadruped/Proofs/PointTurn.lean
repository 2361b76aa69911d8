import Quadruped.Proofs.Number.Exact
import Quadruped.Proofs.Outcome
import Quadruped.PointTurn

/-!
A point turn, with exact numbers. A heading is a point of a circle, so the arrival window, the shorter
way and the seam behind the robot are read modulo a whole turn.
-/
namespace Quadruped

variable {R K : Type}

namespace PointTurn

def follow [Scalar R] : PointTurn R → List R → Outcome R (PointTurn R) (List (Option (Command R)))
  | t, [] => .ok t [] []
  | t, yaw :: yaws =>
    (t.step yaw).andThen fun t c => (t.follow yaws).andThen fun t cs => .ok t (c :: cs) []

theorem follow_cons [Scalar R] {t : PointTurn R} {yaw : R} {c : Option (Command R)}
    (stepped : (t.step yaw).result = .ok c) (yaws : List R) :
    (t.follow (yaw :: yaws)).state = ((t.step yaw).state.follow yaws).state ∧
      (t.follow (yaw :: yaws)).result =
        ((t.step yaw).state.follow yaws).result.map (c :: ·) := by
  have parts := Outcome.andThen_after_ok stepped fun t c =>
    (t.follow yaws).andThen fun t cs => Outcome.ok t (c :: cs) []
  rw [follow, parts.1, parts.2]
  cases rest : ((t.step yaw).state.follow yaws).result with
  | error why =>
    have fails := Outcome.andThen_after_error rest fun t cs => Outcome.ok t (c :: cs) []
    exact ⟨fails.1, fails.2⟩
  | ok cs =>
    have goes := Outcome.andThen_after_ok rest fun t cs => Outcome.ok t (c :: cs) []
    exact ⟨goes.1, goes.2⟩

theorem follow_append [Scalar R] {before : List R} :
    ∀ {t : PointTurn R} {answers : List (Option (Command R))},
      (t.follow before).result = .ok answers → ∀ after,
        (t.follow (before ++ after)).result =
          ((t.follow before).state.follow after).result.map (answers ++ ·) := by
  induction before with
  | nil =>
    intro t answers followed after
    obtain rfl : [] = answers := Except.ok.inj followed
    cases h : (t.follow after).result <;> simp [follow, h, Except.map]
  | cons yaw yaws ih =>
    intro t answers followed after
    obtain ⟨c, stepped, _, _⟩ := Outcome.andThen_succeeds followed
    obtain ⟨state, result⟩ := follow_cons stepped yaws
    rw [result] at followed
    cases rest : ((t.step yaw).state.follow yaws).result with
    | error why =>
      rw [rest] at followed
      cases followed
    | ok cs =>
      rw [rest] at followed
      obtain rfl : c :: cs = answers := Except.ok.inj followed
      rw [List.cons_append, (follow_cons stepped _).2, ih rest, state]
      cases (((t.step yaw).state.follow yaws).state.follow after).result <;> rfl

theorem follow_arrived [Scalar R] {t : PointTurn R} (arrived : t.turning = false) (yaws : List R) :
    (t.follow yaws).result = .ok (List.replicate yaws.length none) := by
  have silent (yaw : R) : t.step yaw = .ok t none [] := by simp [step, arrived]
  induction yaws with
  | nil => rfl
  | cons yaw yaws ih =>
    rw [(follow_cons (c := none) (by rw [silent]; rfl) yaws).2, silent, Outcome.ok_state, ih]
    rfl

end PointTurn

open Circular

variable [Field K] [LinearOrder K] [Circular K]

namespace Angle

/-- The rotation ends at the target. -/
def Leads (yaw target e : K) : Prop := ∃ n : ℤ, yaw + e = target + n * (pi + pi)

/-- No rotation to the target is shorter, and of two half turns this is the left one. -/
structure Shortest (yaw target e : K) : Prop where
  leads : Leads yaw target e
  least : ∀ other, Leads yaw target other → |e| ≤ |other|
  left : ∀ other, Leads yaw target other → |other| = |e| → other ≤ e

/-- The arrival window on the circle: it ends with the heading that is the tolerance beyond the target,
and begins after the one that falls short by it. -/
def Around (target tolerance yaw : K) : Prop :=
  ∃ n : ℤ, target - tolerance < yaw + n * (pi + pi) ∧ yaw + n * (pi + pi) ≤ target + tolerance

variable {yaw target tolerance e other : K}

theorem Shortest.eq (one : Shortest yaw target e) (two : Shortest yaw target other) :
    other = e := by
  have long : |other| = |e| := le_antisymm (two.least e one.leads) (one.least other two.leads)
  exact le_antisymm (one.left other two.leads long) (two.left e one.leads long.symm)

end Angle

open Exact

variable [FloorRing K]

theorem Velocity.checked_exact (v : Velocity K) : v.checked = .ok v := by
  simp [checked, firstBad?, Scalar.finite]

namespace Angle

variable [IsStrictOrderedRing K] {yaw target tolerance e other : K}

theorem wrap_leads (yaw target : K) : Leads yaw target (wrap (target - yaw)) := by
  obtain ⟨n, turns⟩ := wrap_turns (target - yaw)
  refine ⟨-n, ?_⟩
  rw [turns]
  push_cast
  ring

theorem Leads.eq_wrap (leads : Leads yaw target e) (above : -pi < e) (below : e ≤ pi) :
    e = wrap (target - yaw) := by
  obtain ⟨n, turns⟩ := leads
  refine (wrap_eq above below ⟨-n, ?_⟩).symm
  push_cast
  linarith

theorem Leads.wrap_eq (leads : Leads yaw target e) : wrap e = wrap (target - yaw) := by
  obtain ⟨n, turns⟩ := leads
  obtain ⟨m, whole⟩ := wrap_turns (target - yaw)
  obtain ⟨above, below⟩ := wrap_mem (target - yaw)
  refine Exact.wrap_eq above below ⟨m + n, ?_⟩
  push_cast
  linarith

theorem wrap_shortest (yaw target : K) : Shortest yaw target (wrap (target - yaw)) := by
  obtain ⟨above, below⟩ := wrap_mem (target - yaw)
  refine ⟨wrap_leads yaw target, fun other leads => ?_, fun other leads long => ?_⟩
  · rw [← leads.wrap_eq]
    exact abs_wrap_le other
  · have reach : |other| ≤ pi := long ▸ abs_le.mpr ⟨above.le, below⟩
    obtain ⟨low, high⟩ := abs_le.mp reach
    -- a rotation as long as the wrapped one is the wrapped one, or half a turn to the right
    rcases low.lt_or_eq with inside | half
    · exact (leads.eq_wrap inside high).le
    · exact half ▸ above.le

theorem Shortest.eq_wrap (shortest : Shortest yaw target e) : e = wrap (target - yaw) :=
  (wrap_shortest yaw target).eq shortest

theorem around_iff (narrow : tolerance < pi) :
    Around target tolerance yaw ↔ inWindow tolerance (wrap (target - yaw)) = true := by
  rw [inWindow_exact]
  constructor
  · rintro ⟨n, after, before⟩
    have near : target - (yaw + n * (pi + pi)) = wrap (target - yaw) :=
      Leads.eq_wrap ⟨-n, by push_cast; ring⟩ (by linarith) (by linarith)
    constructor <;> linarith
  · rintro ⟨above, below⟩
    obtain ⟨n, turns⟩ := wrap_turns (target - yaw)
    exact ⟨n, by linarith, by linarith⟩

end Angle

namespace PointTurn

open Angle

structure Steers (speed tolerance target yaw : K)
    (answer : Except (Fault K) (Option (Command K))) : Prop where
  stops : answer = .ok (some .stop) ↔ Around target tolerance yaw
  turns : ¬ Around target tolerance yaw →
    answer = .ok (some (.velocity ⟨0, 0, speed⟩)) ∨ answer = .ok (some (.velocity ⟨0, 0, -speed⟩))
  left : ∀ e, Shortest yaw target e →
    (answer = .ok (some (.velocity ⟨0, 0, speed⟩)) ↔ tolerance ≤ e ∧ e ≤ pi)
  right : ∀ e, Shortest yaw target e →
    (answer = .ok (some (.velocity ⟨0, 0, -speed⟩)) ↔ -pi < e ∧ e < -tolerance)

variable [IsStrictOrderedRing K]

structure Begun (t : PointTurn K) (target : K) : Prop where
  turning : t.turning = true
  aim : t.target = wrap target

variable {t : PointTurn K} {target yaw : K}

theorem begin_begun (t : PointTurn K) (target : K) :
    (t.begin target).result = .ok () ∧ (t.begin target).state.Begun target ∧
      (t.begin target).state.speed = t.speed ∧ (t.begin target).state.tolerance = t.tolerance := by
  rw [PointTurn.begin, normalize_exact]
  exact ⟨rfl, ⟨rfl, rfl⟩, rfl, rfl⟩

theorem step_exact (turning : t.turning = true) (yaw : K) :
    t.step yaw =
      if inWindow t.tolerance (wrap (t.target - yaw)) then
        .ok { t with turning := false } (some .stop) [.turnComplete yaw]
      else
        ⟨t, .ok (some (.velocity ⟨0, 0, t.rate (wrap (t.target - yaw))⟩)),
          [.turning (wrap (t.target - yaw))]⟩ := by
  simp only [step, turning, error_exact, Velocity.checked_exact, Except.map, Bool.not_true,
    Bool.false_eq_true, if_false]

theorem step_inside (begun : t.Begun target) (narrow : t.tolerance < pi)
    (inside : Around target t.tolerance yaw) :
    (t.step yaw).result = .ok (some .stop) ∧ (t.step yaw).state.turning = false := by
  have window := (around_iff narrow).mp inside
  rw [step_exact begun.turning, begun.aim, wrap_wrap_sub, if_pos window]
  exact ⟨rfl, rfl⟩

theorem step_outside (begun : t.Begun target) (narrow : t.tolerance < pi)
    (outside : ¬ Around target t.tolerance yaw) :
    (t.step yaw).result = .ok (some (.velocity ⟨0, 0, t.rate (wrap (target - yaw))⟩)) ∧
      (t.step yaw).state = t := by
  have window := mt (around_iff narrow).mpr outside
  rw [step_exact begun.turning, begun.aim, wrap_wrap_sub, if_neg window]
  exact ⟨rfl, rfl⟩

theorem rate_cases (wide : 0 < t.tolerance) (narrow : t.tolerance < pi)
    (outside : ¬ Around target t.tolerance yaw) :
    (t.rate (wrap (target - yaw)) = t.speed ∧ t.tolerance ≤ wrap (target - yaw)) ∨
      (t.rate (wrap (target - yaw)) = -t.speed ∧ wrap (target - yaw) < -t.tolerance) := by
  rw [around_iff narrow, inWindow_exact, not_and_or, not_le, not_lt] at outside
  unfold rate
  by_cases ahead : 0 < wrap (target - yaw)
  · rw [if_pos ((lt_exact _ _).mpr ahead)]
    rcases outside with right | left
    · linarith
    · exact .inl ⟨rfl, left⟩
  · rw [if_neg (mt (lt_exact _ _).mp ahead)]
    rcases outside with right | left
    · exact .inr ⟨rfl, right⟩
    · linarith

theorem Steers.of_error {speed tolerance : K} {answer : Except (Fault K) (Option (Command K))}
    (stops : answer = .ok (some .stop) ↔ Around target tolerance yaw)
    (turns : ¬ Around target tolerance yaw →
      answer = .ok (some (.velocity ⟨0, 0, speed⟩)) ∨
        answer = .ok (some (.velocity ⟨0, 0, -speed⟩)))
    (left : answer = .ok (some (.velocity ⟨0, 0, speed⟩)) ↔ tolerance ≤ wrap (target - yaw))
    (right : answer = .ok (some (.velocity ⟨0, 0, -speed⟩)) ↔ wrap (target - yaw) < -tolerance) :
    Steers speed tolerance target yaw answer := by
  obtain ⟨above, below⟩ := wrap_mem (target - yaw)
  refine ⟨stops, turns, ?_, ?_⟩
  · intro e shortest
    obtain rfl := shortest.eq_wrap
    exact left.trans (iff_self_and.mpr fun _ => below)
  · intro e shortest
    obtain rfl := shortest.eq_wrap
    exact right.trans (iff_and_self.mpr fun _ => above)

theorem step_steers (begun : t.Begun target) (wide : 0 < t.tolerance) (narrow : t.tolerance < pi)
    (fast : 0 < t.speed) (yaw : K) :
    Steers t.speed t.tolerance target yaw (t.step yaw).result := by
  by_cases around : Around target t.tolerance yaw
  · obtain ⟨low, high⟩ := (inWindow_exact _ _).mp ((around_iff narrow).mp around)
    rw [(step_inside begun narrow around).1]
    apply Steers.of_error
    · exact ⟨fun _ => around, fun _ => rfl⟩
    · exact fun out => absurd around out
    · have near : ¬ t.tolerance ≤ wrap (target - yaw) := high.not_ge
      simp [Command.stop, near]
    · have near : ¬ wrap (target - yaw) < -t.tolerance := low.not_gt
      simp [Command.stop, near]
  · have apart : t.speed ≠ -t.speed := by linarith
    rw [(step_outside begun narrow around).1]
    rcases rate_cases wide narrow around with ⟨rate, far⟩ | ⟨rate, far⟩ <;> rw [rate] <;>
      apply Steers.of_error
    · simp [Command.stop, around]
    · exact fun _ => .inl rfl
    · exact ⟨fun _ => far, fun _ => rfl⟩
    · have beyond : ¬ wrap (target - yaw) < -t.tolerance := by linarith
      simp [apart, beyond]
    · simp [Command.stop, around]
    · exact fun _ => .inr rfl
    · have beyond : ¬ t.tolerance ≤ wrap (target - yaw) := by linarith
      simp [apart.symm, beyond]
    · exact ⟨fun _ => far, fun _ => rfl⟩

theorem follow_outside (begun : t.Begun target) (narrow : t.tolerance < pi) {yaws : List K}
    (outside : ∀ y ∈ yaws, ¬ Around target t.tolerance y) :
    ∃ moves : List (Velocity K), (t.follow yaws).state = t ∧ moves.length = yaws.length ∧
      (t.follow yaws).result = .ok (moves.map fun v => some (.velocity v)) := by
  induction yaws with
  | nil => exact ⟨[], rfl, rfl, rfl⟩
  | cons yaw yaws ih =>
    rw [List.forall_mem_cons] at outside
    obtain ⟨stepped, still⟩ := step_outside begun narrow outside.1
    obtain ⟨moves, state, length, result⟩ := ih outside.2
    have parts := follow_cons stepped yaws
    rw [still, state, result] at parts
    exact ⟨_ :: moves, parts.1, congrArg (· + 1) length, parts.2⟩

theorem follow_inside (begun : t.Begun target) (narrow : t.tolerance < pi) {before : List K}
    (outside : ∀ y ∈ before, ¬ Around target t.tolerance y) {yaw : K}
    (inside : Around target t.tolerance yaw) (after : List K) :
    ∃ moves : List (Velocity K), moves.length = before.length ∧
      (t.follow (before ++ yaw :: after)).result =
        .ok (moves.map (fun v => some (.velocity v)) ++
          some .stop :: List.replicate after.length none) := by
  obtain ⟨moves, state, length, result⟩ := follow_outside begun narrow outside
  obtain ⟨stops, arrived⟩ := step_inside begun narrow inside
  refine ⟨moves, length, ?_⟩
  rw [follow_append result, state, (follow_cons stops after).2, follow_arrived arrived]
  rfl

/-- A turn begun anew, whatever the turn before it has left, goes the shortest way to its target until
a heading is in the window on the circle, stops there once, and then has nothing more to say. -/
theorem goes_the_shortest_way_and_stops_once (t : PointTurn K) (target : K)
    (wide : 0 < t.tolerance) (narrow : t.tolerance < pi) (fast : 0 < t.speed) :
    let begun := t.begin target
    begun.result = .ok () ∧
      (∀ yaw, ∃ e, Angle.error yaw target = some e ∧ Shortest yaw target e ∧
        ∀ other, Shortest yaw target other → other = e) ∧
      (∀ before, (∀ y ∈ before, ¬ Around target t.tolerance y) →
        (∃ moves : List (Velocity K), moves.length = before.length ∧
          (begun.state.follow before).result = .ok (moves.map fun v => some (.velocity v))) ∧
        ∀ yaw, Steers t.speed t.tolerance target yaw
          ((begun.state.follow before).state.step yaw).result) ∧
      (∀ before yaw after, (∀ y ∈ before, ¬ Around target t.tolerance y) →
        Around target t.tolerance yaw →
        ∃ moves : List (Velocity K), moves.length = before.length ∧
          (begun.state.follow (before ++ yaw :: after)).result =
            .ok (moves.map (fun v => some (.velocity v)) ++
              some .stop :: List.replicate after.length none)) := by
  intro begun
  obtain ⟨started, underWay, speed, tolerance⟩ := begin_begun t target
  rw [← tolerance] at wide narrow ⊢
  rw [← speed] at fast ⊢
  refine ⟨started, fun yaw => ?_, fun before outside => ?_, fun before yaw after outside inside => ?_⟩
  · have shortest := wrap_shortest yaw target
    exact ⟨_, error_exact yaw target, shortest, fun other again => again.eq_wrap⟩
  · obtain ⟨moves, state, length, result⟩ := follow_outside underWay narrow outside
    rw [state]
    exact ⟨⟨moves, length, result⟩, step_steers underWay wide narrow fast⟩
  · exact follow_inside underWay narrow outside inside after

/-- In quarter turns: half a turn goes left, and ends on the other side of the seam that it leads to. -/
theorem half_turn_goes_left_over_the_seam :
    letI := Circular.ofHalfTurn (2 : ℚ) two_pos
    let begun := (PointTurn.ofRates (1 : ℚ) (1 / 2)).begin 2
    (begun.state.step 0).result = .ok (some (.velocity ⟨0, 0, 1⟩)) ∧
      ∃ v, (begun.state.follow [0, -7 / 4, 0]).result =
        .ok [some (.velocity v), some .stop, none] := by
  let circular := Circular.ofHalfTurn (2 : ℚ) two_pos
  have half : (pi : ℚ) = 2 := rfl
  have wide : (0 : ℚ) < (PointTurn.ofRates (1 : ℚ) (1 / 2)).tolerance := by
    change (0 : ℚ) < 1 / 2
    norm_num
  have narrow : (PointTurn.ofRates (1 : ℚ) (1 / 2)).tolerance < pi := by
    change (1 / 2 : ℚ) < 2
    norm_num
  have outside : ∀ y ∈ [(0 : ℚ)], ¬ Around 2 (1 / 2) y := by
    intro y here
    rw [List.mem_singleton.mp here, Around, half]
    rintro ⟨n, after, before⟩
    have some_turn : (0 : ℚ) < n := by linarith
    have no_turn : (n : ℚ) < 1 := by linarith
    norm_cast at some_turn no_turn
    omega
  have inside : Around (2 : ℚ) (1 / 2) (-7 / 4) := by
    rw [Around, half]
    exact ⟨1, by norm_num, by norm_num⟩
  have shortest : Shortest (0 : ℚ) 2 2 := by
    have wrapped := wrap_shortest (0 : ℚ) 2
    rwa [sub_zero, wrap_self (by rw [half]; norm_num) half.ge] at wrapped
  obtain ⟨_, _, steers, once⟩ :=
    goes_the_shortest_way_and_stops_once (.ofRates 1 (1 / 2)) 2 wide narrow one_pos
  obtain ⟨_, first⟩ := steers [] (by simp)
  obtain ⟨moves, length, result⟩ := once [0] (-7 / 4) [0] outside inside
  refine ⟨((first 0).left 2 shortest).mpr ⟨?_, half.ge⟩, ?_⟩
  · change (1 / 2 : ℚ) ≤ 2
    norm_num
  · obtain ⟨v, rfl⟩ := List.length_eq_one_iff.mp length
    exact ⟨v, result⟩

end PointTurn

end Quadruped
