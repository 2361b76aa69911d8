import Quadruped.Proofs.Plan.Consistent

/-!
The heading that a travel holds. It is written at the start of a plan, as its first travel sets out
and at the end of every turn; what it holds in between is told by the plan so far, the heading given
with it and the pose by which the first travel set out, and by nothing else.
-/
namespace Quadruped

def Segment.heading? {R : Type} : Segment R → Option R
  | .turn h => some h
  | .travel _ => none

namespace Runner

variable {R : Type} [Scalar R]

/-- The angle that the segments done leave to be held: that of the last turn, or else the one given at
the start, or else that of the pose by which the first travel set out. -/
def bearing (done : List (Segment R)) (given : Option R) (first : Option (Pose R)) : Option R :=
  (done.reverse.findSome? Segment.heading?).or (given.or (first.map (·.yaw)))

def Heads (laid : List (Segment R)) (given : Option R) (first : Option (Pose R)) (r : Runner R) :
    Prop :=
  Option.Rel (fun angle held => Angle.normalize angle = some held)
    (bearing (laid.take r.completed) given first) r.heading

section
variable {laid done : List (Segment R)} {given : Option R} {first : Option (Pose R)}
  {r s : Runner R} {t : Instants R} {pose : Pose R}

omit [Scalar R] in
theorem bearing_past_turn (h : R) :
    bearing (done ++ [.turn h]) given first = some h := by
  simp [bearing, List.findSome?_cons, Segment.heading?]

omit [Scalar R] in
theorem bearing_past_travels {later : List (Segment R)} (straight : ∀ h, .turn h ∉ later) :
    bearing (done ++ later) given first = bearing done given first := by
  have turns : later.reverse.findSome? Segment.heading? = none := by
    rw [List.findSome?_eq_none_iff]
    intro segment member
    cases segment with
    | turn h => exact absurd (List.mem_reverse.mp member) (straight h)
    | travel d => rfl
  rw [bearing, List.reverse_append, List.findSome?_append, turns, Option.none_or, bearing]

omit [Scalar R] in
theorem bearing_settled {angle : R} (settled : bearing done given first = some angle)
    (later : Option (Pose R)) : bearing done given (first.or later) = some angle := by
  cases first with
  | some pose => exact settled
  | none =>
    simp only [bearing, Option.map_none, Option.or_none] at settled
    rw [bearing, ← Option.or_assoc, settled, Option.some_or]

omit [Scalar R] in
theorem bearing_unsettled (unsettled : bearing done given first = none) :
    bearing done given (first.or (some pose)) = some pose.yaw := by
  obtain ⟨no_turn, rfl, no_pose⟩ : done.reverse.findSome? Segment.heading? = none ∧ given = none ∧
      first.map (·.yaw) = none := by simpa only [bearing, Option.or_eq_none_iff] using unsettled
  rw [bearing, no_turn, Option.map_eq_none_iff.mp no_pose]
  rfl

theorem start_heads {items : List (PlanItem R)} (plan : List (Segment R))
    (started : (r.start items given).result = .ok ()) :
    Heads plan given none (r.start items given).state := by
  have attempt := r.start_attempt items given
  rw [started] at attempt
  generalize (r.start items given).state = s at attempt ⊢
  cases attempt with
  | begins checked passed rest held faces =>
    unfold Heads
    rcases faces with ⟨rfl, rfl⟩ | ⟨h, h', rfl, normal, rfl⟩
    · exact .none
    · exact .some normal

theorem advance_heads {segment : Segment R} {rest : List (Segment R)} (now : R)
    (before : r.Consistent laid) (plan : r.plan = segment :: rest)
    (heads : Option.Rel (fun angle held => Angle.normalize angle = some held)
      (bearing (laid.take s.completed ++ [segment]) given first) s.heading)
    (same : s.completed = r.completed) : Heads laid given first (s.advance now).1 := by
  obtain ⟨pauseUntil, eq, _⟩ := s.advance_only now
  rw [eq]
  unfold Heads
  rw [same] at heads ⊢
  rw [List.take_add_one, consistent_next before plan, Option.toList_some]
  exact heads

theorem driven_turn_heads {h : R} {rest : List (Segment R)} {x : Option (Command R)}
    (driven : Driven r t pose s (.ok x)) (plan : r.plan = .turn h :: rest)
    (before : r.Consistent laid) (ready : r.pauseUntil = none) (heads : Heads laid given first r) :
    Heads laid given first s := by
  cases driven with
  | passes h' rest' s plan' on still =>
    obtain ⟨_, _, turning, _, _⟩ := onTurn_consistent on before plan' ready
    cases still.symm.trans turning
  | turns h' rest' s plan' on => cases on with
    | goesOn | begins => exact heads
  | arrives h' rest' s plan' on =>
    obtain ⟨begun, same, _, _, _⟩ := onTurn_consistent on before plan' ready
    have active : s.active = true := by cases on with
      | goesOn active => exact active
      | begins => rfl
    have completed : s.completed = r.completed := onTurn_completed on
    apply advance_heads (s := s.faced) t.finish before plan' _ completed
    rw [bearing_past_turn]
    exact .some (begun.faces active h' rest' same).2
  | travels d rest' s plan' | completes d rest' s plan' => cases plan.symm.trans plan'

theorem onTravel_heads {d : R} {rest : List (Segment R)} (on : OnTravel r t pose s)
    (before : r.Consistent laid) (plan : r.plan = .travel d :: rest)
    (heads : Heads laid given first r) : Heads laid given (first.or (some pose)) s := by
  have goes_on {held : R} (heading : r.heading = some held) :
      Heads laid given (first.or (some pose)) r := by
    unfold Heads at heads ⊢
    rw [heading] at heads ⊢
    cases settled : bearing (laid.take r.completed) given first with
    | none =>
      rw [settled] at heads
      cases heads
    | some angle =>
      rw [settled] at heads
      rwa [bearing_settled settled]
  cases on with
  | goesOn active =>
    obtain ⟨held, heading⟩ := Option.isSome_iff_exists.mp (before.holds active d rest plan)
    exact goes_on heading
  | begins w fresh held =>
    rcases held with heading | ⟨free, normal⟩
    · have same := goes_on heading
      unfold Heads at same ⊢
      rwa [heading] at same
    · unfold Heads at heads ⊢
      rw [free] at heads
      cases unsettled : bearing (laid.take r.completed) given first with
      | none =>
        change Option.Rel _ (bearing (laid.take r.completed) given _) (some w)
        rw [bearing_unsettled unsettled]
        exact .some normal
      | some angle =>
        rw [unsettled] at heads
        cases heads

theorem driven_travel_heads {d : R} {rest : List (Segment R)} {x : Option (Command R)}
    (driven : Driven r t pose s (.ok x)) (plan : r.plan = .travel d :: rest)
    (before : r.Consistent laid) (heads : Heads laid given first r) :
    Heads laid given (first.or (some pose)) s := by
  cases driven with
  | passes h rest' s plan' | turns h rest' s plan' | arrives h rest' s plan' =>
    cases plan.symm.trans plan'
  | travels d' rest' s plan' on => exact onTravel_heads on before plan' heads
  | completes d' rest' s plan' on =>
    have headed := onTravel_heads on before plan' heads
    apply advance_heads t.finish before plan' _ (onTravel_completed on)
    rwa [bearing_past_travels (by simp)]

theorem driven_travel_corrects {d : R} {rest : List (Segment R)} {v : Velocity R}
    (driven : Driven r t pose s (.ok (some (.velocity v)))) (plan : r.plan = .travel d :: rest)
    (before : r.Consistent laid) (ready : r.pauseUntil = none) :
    s.completed = r.completed ∧ s.gains = r.gains ∧ ∃ held, s.heading = some held ∧
      Angle.correction pose.yaw held r.gains.headingGain r.gains.headingLimit = some v.angular := by
  generalize result : (.ok (some (.velocity v)) : Given R) = given at driven
  cases driven with
  | grounded | misdirected | turnFails | strays | travelFails => cases result
  | passes h rest' s plan' | turns h rest' s plan' | arrives h rest' s plan' =>
    cases plan.symm.trans plan'
  | completes d' rest' s plan' on => cases result
  | travels d' rest' s plan' on c biased =>
    cases result
    obtain ⟨begun, same, _, _⟩ := onTravel_consistent on before plan' ready
    obtain ⟨gains, active⟩ : s.gains = r.gains ∧ s.active = true := by
      cases on with
      | goesOn active => exact ⟨rfl, active⟩
      | begins => exact ⟨rfl, rfl⟩
    obtain ⟨held, heading⟩ := Option.isSome_iff_exists.mp (begun.holds active d' rest' same)
    refine ⟨onTravel_completed on, gains, held, heading, ?_⟩
    rw [bias, heading, gains] at biased
    exact biased

end

end Runner

namespace Pilot

variable {R : Type} [Scalar R]

def travelPose (p : Pilot R) : Act R → Option (Pose R)
  | .tick t =>
    match p.driving t with
    | some (.travel _, pose) => some pose
    | _ => none
  | _ => none

def setOutPose (p : Pilot R) : List (Act R) → Option (Pose R)
  | [] => none
  | a :: rest => (p.travelPose a).or ((p.act a).1.setOutPose rest)

/-- The tick that follows a flight drives a travel by a pose and gives a velocity. -/
structure Steers (p : Pilot R) (acts : List (Act R)) (t : Instants R) (pose : Pose R)
    (v : Velocity R) : Prop where
  attended : ∀ a ∈ acts, a.attends = true
  calm : p.Calm acts
  drives : ∃ d, (p.fly acts).1.driving t = some (.travel d, pose)
  gives : ((p.fly acts).1.tickAt t).result = .ok (some (.velocity v))

section
variable {laid : List (Segment R)} {given : Option R} {first : Option (Pose R)} {p : Pilot R}

theorem setOutPose_append (p : Pilot R) (one other : List (Act R)) :
    p.setOutPose (one ++ other) = (p.setOutPose one).or ((p.fly one).1.setOutPose other) := by
  induction one generalizing p with
  | nil => rfl
  | cons a rest ih =>
    rw [List.cons_append, setOutPose, ih, ← Option.or_assoc]
    rfl

theorem act_heads {a : Act R} (attends : a.attends = true) (calm : p.Calm [a])
    (before : p.runner.Consistent laid) (heads : p.runner.Heads laid given first) :
    (p.act a).1.runner.Heads laid given (first.or (p.travelPose a)) := by
  cases a with
  | start | cancel => cases attends
  | hear pose =>
    simp only [travelPose, Option.or_none]
    exact heads
  | tick t =>
    obtain ⟨x, result⟩ := calm_tick.mp calm
    have free := Runner.unpaused_consistent before
    cases drives : p.driving t with
    | none =>
      obtain ⟨stopPending, pauseUntil, same⟩ := driving_none drives result
      rw [same]
      simp only [travelPose, drives, Option.or_none]
      exact heads
    | some driven =>
      obtain ⟨segment, pose⟩ := driven
      obtain ⟨⟨rest, plan⟩, _, driven⟩ := driving_driven drives
      rw [result] at driven
      cases segment with
      | turn h =>
        have after := Runner.driven_turn_heads driven plan free rfl heads
        simpa only [travelPose, drives, Option.or_none] using after
      | travel d =>
        have after := Runner.driven_travel_heads driven plan free heads
        simpa only [travelPose, drives] using after

theorem fly_completed {acts : List (Act R)} (attended : ∀ a ∈ acts, a.attends = true) :
    p.runner.completed ≤ (p.fly acts).1.runner.completed := by
  induction acts generalizing p with
  | nil => exact Nat.le_refl _
  | cons a rest ih =>
    obtain ⟨attends, others⟩ := List.forall_mem_cons.mp attended
    refine Nat.le_trans ?_ (ih others)
    cases a with
    | start | cancel => cases attends
    | hear pose => exact Nat.le_refl _
    | tick t =>
      exact Runner.ticked_completed (Runner.tickAt_ticked p.runner t p.sampler.slot.value)

theorem fly_heads {acts : List (Act R)} (attended : ∀ a ∈ acts, a.attends = true)
    (calm : p.Calm acts) (before : p.runner.Consistent laid)
    (heads : p.runner.Heads laid given first) :
    (p.fly acts).1.runner.Heads laid given (first.or (p.setOutPose acts)) := by
  induction acts generalizing p first with
  | nil =>
    rw [setOutPose, Option.or_none]
    exact heads
  | cons a rest ih =>
    obtain ⟨attends, others⟩ := List.forall_mem_cons.mp attended
    obtain ⟨now, later⟩ := calm_cons.mp calm
    have first_attended : ∀ b ∈ [a], b.attends = true := by simpa using attends
    have reached : (p.act a).1.runner.Consistent laid := attended_consistent first_attended before
    have after := ih others later reached (act_heads attends now before heads)
    rwa [Option.or_assoc] at after

theorem steers_bearing {acts : List (Act R)} {t : Instants R} {pose : Pose R} {v : Velocity R}
    (steers : p.Steers acts t pose v) (before : p.runner.Consistent laid)
    (heads : p.runner.Heads laid given none) :
    ∃ angle held, Runner.bearing (laid.take (p.fly acts).1.runner.completed) given
        (p.setOutPose (acts ++ [.tick t])) = some angle ∧ Angle.normalize angle = some held ∧
      Angle.correction pose.yaw held (p.fly acts).1.runner.gains.headingGain
        (p.fly acts).1.runner.gains.headingLimit = some v.angular := by
  have reached := attended_consistent steers.attended before
  have headed := fly_heads steers.attended steers.calm before heads
  have after := act_heads (a := .tick t) rfl (calm_tick.mpr ⟨_, steers.gives⟩) reached headed
  obtain ⟨d, drives⟩ := steers.drives
  obtain ⟨⟨rest, plan⟩, _, driven⟩ := driving_driven drives
  rw [steers.gives] at driven
  obtain ⟨completed, _, held, heading, corrects⟩ :=
    Runner.driven_travel_corrects driven plan (Runner.unpaused_consistent reached) rfl
  have poses : p.setOutPose (acts ++ [.tick t]) =
      (none.or (p.setOutPose acts)).or ((p.fly acts).1.travelPose (.tick t)) := by
    rw [setOutPose_append]
    simp [setOutPose]
  unfold Runner.Heads at after
  rw [heading, completed, ← poses] at after
  cases settled : Runner.bearing (laid.take (p.fly acts).1.runner.completed) given
      (p.setOutPose (acts ++ [.tick t])) with
  | none =>
    rw [settled] at after
    cases after
  | some angle =>
    rw [settled] at after
    cases after with
    | some normal => exact ⟨angle, held, rfl, normal, corrects⟩

end

/-- A travel turns, at every velocity that it gives, by the correction towards one heading: that of the
last turn done of this plan, or else the one given at its start, or else that of the pose by which its
first travel set out. No earlier plan has a part in it, and it stays the same until a turn is done. -/
theorem travels_hold_one_heading {gains : Gains R} {source : String} {runner : Runner R}
    (made : Runner.create gains source = .ok runner) (earlier : List (Act R))
    (plan : List (Segment R)) (heading : Option R)
    (started : (((ofRunner runner).fly earlier).1.start (plan.map .segment) heading).result = .ok ())
    {acts : List (Act R)} {t : Instants R} {pose : Pose R} {v : Velocity R} :
    let p := (((ofRunner runner).fly earlier).1.start (plan.map .segment) heading).state
    let done := fun acts => plan.take (p.fly acts).1.runner.completed
    p.Steers acts t pose v →
      ∃ angle held, Runner.bearing (done acts) heading (p.setOutPose (acts ++ [.tick t])) = some angle ∧
        Angle.normalize angle = some held ∧
        Angle.correction pose.yaw held gains.headingGain gains.headingLimit = some v.angular ∧
        ∀ more u pose' v', p.Steers (acts ++ .tick t :: more) u pose' v' →
          (∀ h, .turn h ∉ (done (acts ++ .tick t :: more)).drop (done acts).length) →
          Angle.correction pose'.yaw held gains.headingGain gains.headingLimit = some v'.angular := by
  intro p done steers
  have settings (acts : List (Act R)) : (p.fly acts).1.runner.gains = gains := by
    have tuned : ((ofRunner runner).fly earlier).1.runner.Tuned gains :=
      fly_keeps (P := fun p => p.runner.Tuned gains) act_tuned earlier (Runner.create_tuned made)
    have begun : p.runner.Tuned gains := Runner.start_tuned tuned _ heading
    exact (fly_keeps (P := fun p => p.runner.Tuned gains) act_tuned acts begun).settings
  obtain ⟨checked, _, passed, _⟩ := Runner.start_begins started
  obtain ⟨rfl, _⟩ := Plan.check_segments passed
  have before : p.runner.Consistent checked := Runner.begun_consistent passed started
  have heads : p.runner.Heads checked heading none := Runner.start_heads checked started
  obtain ⟨angle, held, settled, normal, corrects⟩ := steers_bearing steers before heads
  rw [settings] at corrects
  refine ⟨angle, held, settled, normal, corrects, ?_⟩
  intro more u pose' v' later straight
  obtain ⟨angle', held', settled', normal', corrects'⟩ := steers_bearing later before heads
  rw [settings] at corrects'
  -- what is done by then begins with what is done now, and only travels follow
  have grows : done acts <+: done (acts ++ .tick t :: more) := by
    apply List.take_prefix_take_left
    rw [fly_append]
    exact fly_completed fun a member => later.attended a (List.mem_append_right acts member)
  have poses : p.setOutPose ((acts ++ .tick t :: more) ++ [.tick u]) =
      (p.setOutPose (acts ++ [.tick t])).or
        ((p.fly (acts ++ [.tick t])).1.setOutPose (more ++ [.tick u])) := by
    rw [← setOutPose_append]
    simp
  have same : angle' = angle := by
    change Runner.bearing (done _) heading _ = some angle' at settled'
    rw [← List.prefix_iff_eq_append.mp grows, Runner.bearing_past_travels straight, poses,
      Runner.bearing_settled settled] at settled'
    exact (Option.some.inj settled').symm
  rw [same, normal] at normal'
  rwa [Option.some.inj normal']

/-- Two travels without a turn between them, after a plan that was started with another heading. The
second travel still holds the heading of the pose by which the first set out. -/
theorem second_travel_holds_first_heading :
    let gains : Gains Float := .standard
    let earlier : List (Act Float) := [.start [.segment (.travel 1)] (some 3), .cancel]
    let plan : List (Segment Float) := [.travel 0.01, .travel 1]
    let begun := ((ofRunner .standard).fly earlier).1.start (plan.map .segment) none
    let acts : List (Act Float) := [.hear ⟨0, 0, 0, 0.25, 0⟩]
    let more : List (Act Float) :=
      [.hear ⟨0, 0, 0, 0.5, 0⟩, .tick ⟨0.05, 0.05, 0.05⟩, .tick ⟨0.5, 0.5, 0.5⟩]
    Runner.create .standard "elapsed" = .ok .standard ∧ begun.result = .ok () ∧
      begun.state.Steers acts ⟨0, 0, 0⟩ ⟨0, 0, 0, 0.25, 0⟩ ⟨0.5, 0, 0⟩ ∧
      begun.state.Steers (acts ++ .tick ⟨0, 0, 0⟩ :: more) ⟨1.1, 1.1, 1.1⟩ ⟨0, 0, 0, 0.5, 0⟩
        ⟨0.5, 0, -0.125⟩ ∧
      ∃ held, Angle.correction 0.25 held gains.headingGain gains.headingLimit = some 0 ∧
        Angle.correction 0.5 held gains.headingGain gains.headingLimit = some (-0.125) := by
  intro gains earlier plan begun acts more
  have made : Runner.create .standard "elapsed" = .ok .standard := by rfl
  have started : begun.result = .ok () := by decide +kernel
  have first : begun.state.Steers acts ⟨0, 0, 0⟩ ⟨0, 0, 0, 0.25, 0⟩ ⟨0.5, 0, 0⟩ := by
    refine ⟨by simp [acts, Act.attends], ?_, ⟨0.01, by decide +kernel⟩, by decide +kernel⟩
    exact ⟨[], by decide +kernel⟩
  have second : begun.state.Steers (acts ++ .tick ⟨0, 0, 0⟩ :: more) ⟨1.1, 1.1, 1.1⟩
      ⟨0, 0, 0, 0.5, 0⟩ ⟨0.5, 0, -0.125⟩ := by
    refine ⟨by simp [acts, more, Act.attends], ?_, ⟨1, by decide +kernel⟩, by decide +kernel⟩
    exact ⟨[some (.velocity ⟨0.5, 0, 0⟩), some .stop, some .still], by decide +kernel⟩
  have between : (plan.take
      (begun.state.fly (acts ++ .tick ⟨0, 0, 0⟩ :: more)).1.runner.completed).drop
      (plan.take (begun.state.fly acts).1.runner.completed).length = [.travel 0.01] := by
    decide +kernel
  have straight : ∀ h, Segment.turn h ∉ (plan.take
      (begun.state.fly (acts ++ .tick ⟨0, 0, 0⟩ :: more)).1.runner.completed).drop
      (plan.take (begun.state.fly acts).1.runner.completed).length := by
    rw [between]
    simp
  obtain ⟨_, held, _, _, corrects, same⟩ :=
    travels_hold_one_heading made earlier plan none started first
  have later := same more _ _ _ second (by simpa only [begun] using straight)
  exact ⟨made, started, first, second, held, corrects, later⟩

end Pilot
end Quadruped
