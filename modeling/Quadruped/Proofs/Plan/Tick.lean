import Quadruped.Proofs.Plan.Start

/-!
The ticks of a plan runner. `Ticked` lists once what a tick may do, with the guard of each case;
every law about runners is proved by going through that list.
-/
namespace Quadruped

variable {R : Type} [Scalar R]

theorem Velocity.checked_ok {v w : Velocity R} (passed : v.checked = .ok w) : w = v := by
  unfold Velocity.checked at passed
  split at passed
  · cases passed
  · cases passed; rfl

namespace Runner

def facing (r : Runner R) (h : R) : Runner R :=
  { r with turn := { r.turn with target := h, turning := true }, active := true }

def faced (r : Runner R) : Runner R :=
  { r with turn := { r.turn with turning := false }, heading := some r.turn.target }

def departed (r : Runner R) (t : Instants R) (pose : Pose R) (h : R) : Runner R :=
  { r with
    travelStart := t.travel, travelOrigin := (pose.x, pose.y), heading := some h, active := true }

def travelled (r : Runner R) (t : Instants R) (pose : Pose R) : R :=
  (r.measured pose).getD (HeadingHold.estimate r.gains.travelSpeed (t.travel - r.travelStart))

def bias (r : Runner R) (pose : Pose R) : Option R :=
  Angle.correction pose.yaw (r.heading.getD 0) r.gains.headingGain r.gains.headingLimit

inductive OnTurn (r : Runner R) (target : R) : Runner R → Prop where
  | goesOn (active : r.active = true) : OnTurn r target r
  | begins (h : R) (fresh : r.active = false) (normal : Angle.normalize target = some h) :
      OnTurn r target (r.facing h)

inductive OnTravel (r : Runner R) (t : Instants R) (pose : Pose R) : Runner R → Prop where
  | goesOn (active : r.active = true) : OnTravel r t pose r
  | begins (h : R) (fresh : r.active = false)
      (held : r.heading = some h ∨ r.heading = none ∧ Angle.normalize pose.yaw = some h) :
      OnTravel r t pose (r.departed t pose h)

abbrev Given (R : Type) := Except (Fault R) (Option (Command R))

/-- What a tick may do with the first segment. -/
inductive Driven (r : Runner R) (t : Instants R) (pose : Pose R) : Runner R → Given R → Prop where
  | grounded (ended : r.plan = []) : Driven r t pose r (.error .noSegment)
  | misdirected (h : R) (rest : List (Segment R)) (plan : r.plan = .turn h :: rest)
      (fresh : r.active = false) (lost : Angle.normalize h = none) :
      Driven r t pose r (.error .domain)
  | passes (h : R) (rest : List (Segment R)) (s : Runner R) (plan : r.plan = .turn h :: rest)
      (on : OnTurn r h s) (still : s.turn.turning = false) :
      Driven r t pose ({ s with heading := some s.turn.target }.advance t.finish).1 (.ok none)
  | turnFails (h : R) (rest : List (Segment R)) (s : Runner R) (plan : r.plan = .turn h :: rest)
      (on : OnTurn r h s) (why : Fault R)
      (failed : Angle.error pose.yaw s.turn.target = none ∨
        ∃ e, Velocity.checked ⟨0, 0, s.turn.rate e⟩ = .error why) :
      Driven r t pose s (.error why)
  | turns (h : R) (rest : List (Segment R)) (s : Runner R) (plan : r.plan = .turn h :: rest)
      (on : OnTurn r h s) (turning : s.turn.turning = true) (e : R)
      (outside : Angle.error pose.yaw s.turn.target = some e ∧
        Angle.inWindow s.turn.tolerance e = false) :
      Driven r t pose s (.ok (some (.velocity ⟨0, 0, s.turn.rate e⟩)))
  | arrives (h : R) (rest : List (Segment R)) (s : Runner R) (plan : r.plan = .turn h :: rest)
      (on : OnTurn r h s) (turning : s.turn.turning = true) (e : R)
      (inside : Angle.error pose.yaw s.turn.target = some e ∧
        Angle.inWindow s.turn.tolerance e = true) :
      Driven r t pose (s.faced.advance t.finish).1 (.ok (some .stop))
  | strays (d : R) (rest : List (Segment R)) (plan : r.plan = .travel d :: rest)
      (fresh : r.active = false) (free : r.heading = none)
      (lost : Angle.normalize pose.yaw = none) :
      Driven r t pose { r with travelStart := t.travel, travelOrigin := (pose.x, pose.y) }
        (.error .domain)
  | travelFails (d : R) (rest : List (Segment R)) (s : Runner R)
      (plan : r.plan = .travel d :: rest) (on : OnTravel r t pose s) (why : Fault R)
      (failed : s.bias pose = none ∨ ∃ c, s.bias pose = some c ∧
        Velocity.checked ⟨s.gains.travelSpeed, 0, c⟩ = .error why) :
      Driven r t pose s (.error why)
  | travels (d : R) (rest : List (Segment R)) (s : Runner R) (plan : r.plan = .travel d :: rest)
      (on : OnTravel r t pose s) (c : R) (biased : s.bias pose = some c)
      (short : Scalar.le d (s.travelled t pose) = false) :
      Driven r t pose s (.ok (some (.velocity ⟨s.gains.travelSpeed, 0, c⟩)))
  | completes (d : R) (rest : List (Segment R)) (s : Runner R)
      (plan : r.plan = .travel d :: rest) (on : OnTravel r t pose s)
      (far : Scalar.le d (s.travelled t pose) = true) :
      Driven r t pose (s.advance t.finish).1 (.ok (some .stop))

inductive Ticked (r : Runner R) (t : Instants R) :
    Option (Pose R) → Runner R → Given R → Prop where
  | drains (sample : Option (Pose R)) (cancelled : r.phase = .cancelled)
      (pending : r.stopPending = true) :
      Ticked r t sample { r with stopPending := false } (.ok (some .stop))
  | rests (sample : Option (Pose R)) (rest : r.isRunning = false)
      (drained : r.phase = .cancelled → r.stopPending = false) : Ticked r t sample r (.ok none)
  | pauses (sample : Option (Pose R)) (running : r.isRunning = true)
      (paused : r.pausedAt t.pause = true) : Ticked r t sample r (.ok (some .still))
  | waits (running : r.isRunning = true) (ready : r.pausedAt t.pause = false) :
      Ticked r t none { r with pauseUntil := none } (.ok (some .still))
  | drives (pose : Pose R) (running : r.isRunning = true) (ready : r.pausedAt t.pause = false)
      (s : Runner R) (given : Given R)
      (driven : Driven { r with pauseUntil := none } t pose s given) :
      Ticked r t (some pose) s given

theorem beginTurn_cases (r : Runner R) (h : R) :
    (∃ s, OnTurn r h s ∧ (r.beginTurn h).state = s ∧ (r.beginTurn h).result = .ok ()) ∨
      (r.active = false ∧ Angle.normalize h = none ∧ (r.beginTurn h).state = r ∧
        (r.beginTurn h).result = .error .domain) := by
  by_cases active : r.active = true
  · exact .inl ⟨r, .goesOn active, by simp [beginTurn, active], by simp [beginTurn, active]⟩
  · have fresh : r.active = false := by simpa using active
    cases normal : Angle.normalize h with
    | none =>
      rw [beginTurn, if_neg active]
      exact .inr ⟨fresh, rfl, by simp [PointTurn.begin, normal, Outcome.andThen],
        by simp [PointTurn.begin, normal, Outcome.andThen]⟩
    | some h' =>
      refine .inl ⟨r.facing h', .begins h' fresh normal, ?_, ?_⟩
      · simp [beginTurn, PointTurn.begin, active, normal, Outcome.andThen, facing]
      · simp [beginTurn, PointTurn.begin, active, normal, Outcome.andThen]

theorem stepTurn_driven {r s : Runner R} {h : R} {rest : List (Segment R)}
    (plan : r.plan = .turn h :: rest) (on : OnTurn r h s) (t : Instants R) (pose : Pose R) :
    Driven r t pose (s.stepTurn t.finish pose.yaw).state (s.stepTurn t.finish pose.yaw).result := by
  cases turning : s.turn.turning with
  | false =>
    simpa [stepTurn, PointTurn.step, turning, Outcome.andThen] using
      Driven.passes h rest s plan on turning
  | true =>
    cases erred : Angle.error pose.yaw s.turn.target with
    | none =>
      simpa [stepTurn, PointTurn.step, turning, erred, Outcome.andThen] using
        Driven.turnFails h rest s plan on .domain (.inl erred)
    | some e =>
      cases window : Angle.inWindow s.turn.tolerance e with
      | true =>
        simpa [stepTurn, PointTurn.step, turning, erred, window, Outcome.andThen, faced] using
          Driven.arrives h rest s plan on turning e ⟨erred, window⟩
      | false =>
        cases checked : Velocity.checked (⟨0, 0, s.turn.rate e⟩ : Velocity R) with
        | error why =>
          simpa [stepTurn, PointTurn.step, turning, erred, window, checked, Outcome.andThen,
            Except.map] using Driven.turnFails h rest s plan on why (.inr ⟨e, checked⟩)
        | ok v =>
          cases Velocity.checked_ok checked
          simpa [stepTurn, PointTurn.step, turning, erred, window, checked, Outcome.andThen,
            Except.map] using Driven.turns h rest s plan on turning e ⟨erred, window⟩

theorem beginTravel_cases (r : Runner R) (t : Instants R) (d : R) (pose : Pose R) :
    (∃ s, OnTravel r t pose s ∧ (r.beginTravel t.travel d pose).state = s ∧
        (r.beginTravel t.travel d pose).result = .ok ()) ∨
      (r.active = false ∧ r.heading = none ∧ Angle.normalize pose.yaw = none ∧
        (r.beginTravel t.travel d pose).state =
          { r with travelStart := t.travel, travelOrigin := (pose.x, pose.y) } ∧
        (r.beginTravel t.travel d pose).result = .error .domain) := by
  by_cases active : r.active = true
  · exact .inl ⟨r, .goesOn active, by simp [beginTravel, active], by simp [beginTravel, active]⟩
  · have fresh : r.active = false := by simpa using active
    cases heading : r.heading with
    | some h =>
      refine .inl ⟨r.departed t pose h, .begins h fresh (.inl heading), ?_, ?_⟩
      · simp [beginTravel, active, heading, departed]
      · simp [beginTravel, active, heading]
    | none =>
      cases normal : Angle.normalize pose.yaw with
      | none =>
        refine .inr ⟨fresh, rfl, rfl, ?_, ?_⟩
        · simp [beginTravel, active, heading, normal]
        · simp [beginTravel, active, heading, normal]
      | some h =>
        refine .inl ⟨r.departed t pose h, .begins h fresh (.inr ⟨heading, normal⟩), ?_, ?_⟩
        · simp [beginTravel, active, heading, normal, departed]
        · simp [beginTravel, active, heading, normal]

theorem stepTravel_driven {r s : Runner R} {d : R} {rest : List (Segment R)} {t : Instants R}
    {pose : Pose R} (plan : r.plan = .travel d :: rest) (on : OnTravel r t pose s) :
    Driven r t pose (s.stepTravel t d pose).state (s.stepTravel t d pose).result := by
  cases biased : s.bias pose with
  | none =>
    have none_left := biased
    unfold bias at none_left
    simpa [stepTravel, holdHeading, HeadingHold.step, none_left] using
      Driven.travelFails d rest s plan on .domain (.inl biased)
  | some c =>
    have some_left := biased
    unfold bias at some_left
    cases checked : Velocity.checked (⟨s.gains.travelSpeed, 0, c⟩ : Velocity R) with
    | error why =>
      simpa [stepTravel, holdHeading, HeadingHold.step, some_left, checked, Except.map] using
        Driven.travelFails d rest s plan on why (.inr ⟨c, biased, checked⟩)
    | ok v =>
      cases Velocity.checked_ok checked
      cases far : Scalar.le d (s.travelled t pose) with
      | true =>
        have arrived := far
        unfold travelled at arrived
        simpa [stepTravel, holdHeading, HeadingHold.step, some_left, checked, Except.map, arrived]
          using Driven.completes d rest s plan on far
      | false =>
        have short := far
        unfold travelled at short
        simpa [stepTravel, holdHeading, HeadingHold.step, some_left, checked, Except.map, short]
          using Driven.travels d rest s plan on c biased far

theorem drive_driven (r : Runner R) (t : Instants R) (pose : Pose R) :
    Driven r t pose (r.drive t pose).state (r.drive t pose).result := by
  unfold drive
  cases plan : r.plan with
  | nil => exact .grounded plan
  | cons segment rest =>
    cases segment with
    | turn h =>
      dsimp only
      rcases beginTurn_cases r h with ⟨s, on, state, begun⟩ | ⟨fresh, lost, state, failed⟩
      · have parts := Outcome.andThen_after_ok begun fun s _ => s.stepTurn t.finish pose.yaw
        rw [parts.1, parts.2, state]
        exact stepTurn_driven plan on t pose
      · have parts := Outcome.andThen_after_error failed fun s _ => s.stepTurn t.finish pose.yaw
        rw [parts.1, parts.2, state]
        exact .misdirected h rest plan fresh lost
    | travel d =>
      dsimp only
      rcases beginTravel_cases r t d pose with
        ⟨s, on, state, begun⟩ | ⟨fresh, free, lost, state, failed⟩
      · have parts := Outcome.andThen_after_ok begun fun s _ => s.stepTravel t d pose
        rw [parts.1, parts.2, state]
        exact stepTravel_driven plan on
      · have parts := Outcome.andThen_after_error failed fun s _ => s.stepTravel t d pose
        rw [parts.1, parts.2, state]
        exact .strays d rest plan fresh free lost

theorem tickAt_ticked (r : Runner R) (t : Instants R) (sample : Option (Pose R)) :
    Ticked r t sample (r.tickAt t sample).state (r.tickAt t sample).result := by
  unfold tickAt
  by_cases cancelled : r.phase = .cancelled
  · rw [if_pos cancelled]
    have rest : r.isRunning = false := by simp [isRunning, cancelled]
    cases pending : r.stopPending with
    | true => exact .drains sample cancelled pending
    | false => exact .rests sample rest fun _ => pending
  · rw [if_neg cancelled]
    cases running : r.isRunning with
    | false => exact .rests sample running fun same => absurd same cancelled
    | true =>
      rw [if_neg (by simp)]
      cases paused : r.pausedAt t.pause with
      | true => exact .pauses sample running paused
      | false =>
        cases sample with
        | none => exact .waits running paused
        | some pose => exact .drives pose running paused _ _ (drive_driven _ t pose)

/-- Whether a tick looks at the newest pose: a plan runs and no pause lasts. -/
def looks (r : Runner R) (t : Instants R) : Bool := r.isRunning && !r.pausedAt t.pause

theorem looks_running {r : Runner R} {t : Instants R} (looks : r.looks t = true) :
    r.isRunning = true ∧ r.pausedAt t.pause = false := by
  simpa [Runner.looks] using looks

theorem running_not_cancelled {R : Type} {r : Runner R} (running : r.isRunning = true) :
    r.phase ≠ .cancelled := by
  intro cancelled
  simp [isRunning, cancelled] at running

theorem tickAt_looks {r : Runner R} {t : Instants R} (looks : r.looks t = true) (pose : Pose R) :
    r.tickAt t (some pose) = { r with pauseUntil := none }.drive t pose := by
  obtain ⟨running, ready⟩ := looks_running looks
  unfold tickAt
  rw [if_neg (running_not_cancelled running), if_neg (by simp [running]), if_neg (by simp [ready])]

theorem driven_planned {r s : Runner R} {t : Instants R} {pose : Pose R} {x : Option (Command R)}
    (driven : Driven r t pose s (.ok x)) : r.plan ≠ [] := by
  cases driven with
  | passes h rest s plan | turns h rest s plan | arrives h rest s plan | travels h rest s plan
  | completes h rest s plan => simp [plan]

theorem advance_only (r : Runner R) (now : R) :
    ∃ pauseUntil, (r.advance now).1 =
        { r with
          plan := r.plan.tail, completed := r.completed + 1, active := false
          phase := phaseOf r.plan.tail, pauseUntil } ∧
      (pauseUntil = r.pauseUntil ∧
          (r.plan.tail = [] ∨ Scalar.lt 0 r.gains.segmentPause = false) ∨
        pauseUntil = some (now + r.gains.segmentPause) ∧ r.plan.tail ≠ [] ∧
          Scalar.lt 0 r.gains.segmentPause = true) := by
  unfold advance
  cases last : r.plan.tail with
  | nil => exact ⟨r.pauseUntil, rfl, .inl ⟨rfl, .inl rfl⟩⟩
  | cons segment rest =>
    cases pause : Scalar.lt 0 r.gains.segmentPause with
    | false => exact ⟨r.pauseUntil, by simp [pause], .inl ⟨rfl, .inr rfl⟩⟩
    | true =>
      exact ⟨some (now + r.gains.segmentPause), by simp [pause], .inr ⟨rfl, by simp, rfl⟩⟩

structure Tuned (gains : Gains R) (r : Runner R) : Prop where
  settings : r.gains = gains
  speed : r.turn.speed = gains.turnSpeed

theorem create_tuned {gains : Gains R} {source : String} {r : Runner R}
    (made : create gains source = .ok r) : Tuned gains r := by
  unfold create at made
  split at made
  · cases made
  · split at made
    · cases made
    · cases made
      exact ⟨rfl, rfl⟩

section
variable {gains : Gains R} {r : Runner R}

theorem start_tuned (tuned : Tuned gains r) (items : List (PlanItem R)) (heading : Option R) :
    Tuned gains (r.start items heading).state := by
  have attempt := r.start_attempt items heading
  generalize (r.start items heading).state = s, (r.start items heading).result = given at attempt ⊢
  cases attempt with
  | rejected | occupied => exact tuned
  | lost | begins => exact ⟨tuned.settings, tuned.speed⟩

omit [Scalar R] in
theorem cancel_tuned (tuned : Tuned gains r) : Tuned gains r.cancel.1 := by
  unfold cancel
  split
  · exact ⟨tuned.settings, tuned.speed⟩
  · exact tuned

theorem advance_tuned (tuned : Tuned gains r) (now : R) : Tuned gains (r.advance now).1 := by
  obtain ⟨pauseUntil, eq, _⟩ := r.advance_only now
  rw [eq]
  exact ⟨tuned.settings, tuned.speed⟩

theorem onTurn_tuned {h : R} {s : Runner R} (on : OnTurn r h s) (tuned : Tuned gains r) :
    Tuned gains s := by
  cases on with
  | goesOn active => exact tuned
  | begins h fresh normal => exact ⟨tuned.settings, tuned.speed⟩

theorem onTravel_tuned {t : Instants R} {pose : Pose R} {s : Runner R} (on : OnTravel r t pose s)
    (tuned : Tuned gains r) : Tuned gains s := by
  cases on with
  | goesOn active => exact tuned
  | begins h fresh held => exact ⟨tuned.settings, tuned.speed⟩

theorem driven_tuned {t : Instants R} {pose : Pose R} {s : Runner R} {given : Given R}
    (driven : Driven r t pose s given) (tuned : Tuned gains r) : Tuned gains s := by
  cases driven with
  | grounded | misdirected => exact tuned
  | passes h rest s plan on still =>
    have begun := onTurn_tuned on tuned
    have left : Tuned gains { s with heading := some s.turn.target } := ⟨begun.settings, begun.speed⟩
    exact advance_tuned left t.finish
  | turnFails h rest s plan on why failed => exact onTurn_tuned on tuned
  | turns h rest s plan on turning e outside => exact onTurn_tuned on tuned
  | arrives h rest s plan on turning e inside =>
    have begun := onTurn_tuned on tuned
    have left : Tuned gains s.faced := ⟨begun.settings, begun.speed⟩
    exact advance_tuned left t.finish
  | strays => exact ⟨tuned.settings, tuned.speed⟩
  | travelFails d rest s plan on why failed => exact onTravel_tuned on tuned
  | travels d rest s plan on c biased short => exact onTravel_tuned on tuned
  | completes d rest s plan on far => exact advance_tuned (onTravel_tuned on tuned) t.finish

theorem ticked_tuned {t : Instants R} {sample : Option (Pose R)} {s : Runner R} {given : Given R}
    (ticked : Ticked r t sample s given) (tuned : Tuned gains r) : Tuned gains s := by
  cases ticked with
  | drains | waits => exact ⟨tuned.settings, tuned.speed⟩
  | rests | pauses => exact tuned
  | drives pose running ready s given driven =>
    exact driven_tuned driven ⟨tuned.settings, tuned.speed⟩

end

section
variable {r s : Runner R} {t : Instants R} {pose : Pose R} {given : Given R}

theorem advance_source (r : Runner R) (now : R) : (r.advance now).1.source = r.source := by
  obtain ⟨pauseUntil, eq, _⟩ := r.advance_only now
  rw [eq]

theorem onTurn_source {h : R} (on : OnTurn r h s) : s.source = r.source := by
  cases on <;> rfl

theorem onTravel_source (on : OnTravel r t pose s) : s.source = r.source := by
  cases on <;> rfl

theorem driven_source (driven : Driven r t pose s given) : s.source = r.source := by
  cases driven with
  | grounded | misdirected | strays => rfl
  | turnFails h rest s plan on | turns h rest s plan on => exact onTurn_source on
  | travelFails d rest s plan on | travels d rest s plan on => exact onTravel_source on
  | passes h rest s plan on | arrives h rest s plan on =>
    have begun : s.source = r.source := onTurn_source on
    exact (advance_source _ t.finish).trans begun
  | completes d rest s plan on => exact (advance_source s t.finish).trans (onTravel_source on)

theorem ticked_source {sample : Option (Pose R)} (ticked : Ticked r t sample s given) :
    s.source = r.source := by
  cases ticked with
  | drains | rests | pauses | waits => rfl
  | drives pose running ready s given driven =>
    exact driven_source (r := { r with pauseUntil := none }) driven

end

theorem running_not_succeeded {R : Type} {r : Runner R} (running : r.isRunning = true) :
    r.succeeded = false := by
  cases phase : r.phase <;> simp_all [isRunning, succeeded]

section
variable {r s : Runner R} {t : Instants R} {pose : Pose R} {given : Given R}

theorem onTurn_phase {h : R} (on : OnTurn r h s) : s.phase = r.phase := by
  cases on <;> rfl

theorem onTravel_phase (on : OnTravel r t pose s) : s.phase = r.phase := by
  cases on <;> rfl

theorem onTurn_completed {h : R} (on : OnTurn r h s) : s.completed = r.completed := by
  cases on <;> rfl

theorem onTravel_completed (on : OnTravel r t pose s) : s.completed = r.completed := by
  cases on <;> rfl

theorem advance_completed (r : Runner R) (now : R) :
    (r.advance now).1.completed = r.completed + 1 := by
  obtain ⟨pauseUntil, eq, _⟩ := r.advance_only now
  rw [eq]

theorem driven_completed (driven : Driven r t pose s given) : r.completed ≤ s.completed := by
  cases driven with
  | grounded | misdirected | strays => exact Nat.le_refl _
  | turnFails h rest s plan on | turns h rest s plan on =>
    exact Nat.le_of_eq (onTurn_completed on).symm
  | travelFails d rest s plan on | travels d rest s plan on =>
    exact Nat.le_of_eq (onTravel_completed on).symm
  | passes h rest s plan on | arrives h rest s plan on =>
    rw [advance_completed, ← onTurn_completed on]
    exact Nat.le_succ _
  | completes d rest s plan on =>
    rw [advance_completed, ← onTravel_completed on]
    exact Nat.le_succ _

theorem ticked_completed {sample : Option (Pose R)} (ticked : Ticked r t sample s given) :
    r.completed ≤ s.completed := by
  cases ticked with
  | drains | rests | pauses | waits => exact Nat.le_refl _
  | drives pose running ready s given driven =>
    exact driven_completed (r := { r with pauseUntil := none }) driven

theorem driven_succeeds (driven : Driven r t pose s given) (running : r.isRunning = true)
    (done : s.succeeded = true) : given = .ok none ∨ given = .ok (some .stop) := by
  have goes_on (same : s.phase = r.phase) : False := by
    have still : s.isRunning = true := by simpa [isRunning, same] using running
    rw [running_not_succeeded still] at done
    cases done
  cases driven with
  | passes => exact .inl rfl
  | arrives | completes => exact .inr rfl
  | grounded | misdirected | strays => exact (goes_on rfl).elim
  | turnFails h rest s plan on | turns h rest s plan on => exact (goes_on (onTurn_phase on)).elim
  | travelFails d rest s plan on | travels d rest s plan on =>
    exact (goes_on (onTravel_phase on)).elim

theorem ticked_succeeds {sample : Option (Pose R)} (ticked : Ticked r t sample s given)
    (running : r.isRunning = true) (done : s.succeeded = true) :
    given = .ok none ∨ given = .ok (some .stop) := by
  cases ticked with
  | drains => exact .inr rfl
  | rests => exact .inl rfl
  | pauses | waits => cases (running_not_succeeded running).symm.trans done
  | drives pose _ ready s given driven => exact driven_succeeds driven running done

theorem driven_command {c : Command R} (driven : Driven r t pose s (.ok (some c))) :
    c = .stop ∨ ∃ v, c = .velocity v := by
  cases driven with
  | arrives | completes => exact .inl rfl
  | turns | travels => exact .inr ⟨_, rfl⟩

theorem ticked_command {sample : Option (Pose R)} {c : Command R}
    (ticked : Ticked r t sample s (.ok (some c))) : c = .stop ∨ ∃ v, c = .velocity v := by
  cases ticked with
  | drains => exact .inl rfl
  | pauses | waits => exact .inr ⟨_, rfl⟩
  | drives pose running ready s given driven => exact driven_command driven

end

end Runner
end Quadruped
