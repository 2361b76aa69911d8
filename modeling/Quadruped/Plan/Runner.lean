import Quadruped.HeadingHold
import Quadruped.Plan.Check
import Quadruped.Pose

/-!
Runs a plan, one tick at a time: each segment to its end, a pause after each but the last, and a
stop at the end of every segment. A running plan can be cancelled; one stop follows.
-/
namespace Quadruped

open Scalar

inductive DistanceSource where
  | elapsed
  | pose
deriving DecidableEq, Repr

namespace DistanceSource

def name : DistanceSource → String
  | elapsed => "elapsed"
  | pose => "pose"

def ofName? (s : String) : Option DistanceSource := [elapsed, pose].find? (·.name == s)

end DistanceSource

structure Gains (R : Type) where
  turnSpeed : R
  turnTolerance : R
  travelSpeed : R
  headingGain : R
  headingLimit : R
  segmentPause : R
deriving DecidableEq, Repr

def Gains.standard : Gains Float := ⟨0.5, 0.05, 0.5, 0.5, 0.3, 1.0⟩

inductive Phase where
  | idle
  | turning
  | travelling
  | cancelled
  | complete
deriving DecidableEq, Repr

def Phase.name : Phase → String
  | idle => "idle"
  | turning => "running_turn"
  | travelling => "running_travel"
  | cancelled => "cancelled"
  | complete => "complete"

structure Runner (R : Type) where
  gains : Gains R
  source : DistanceSource
  turn : PointTurn R
  phase : Phase
  plan : List (Segment R)
  completed : Nat
  stopPending : Bool
  pauseUntil : Option R
  /-- Whether the first segment of the plan has begun. -/
  active : Bool
  heading : Option R
  travelStart : R
  travelOrigin : R × R
deriving DecidableEq, Repr

/-- The times that one tick reads off the clock: whether a pause is over, how long a travel has gone
on, and when a segment has ended. -/
structure Instants (R : Type) where
  pause : R
  travel : R
  finish : R
deriving DecidableEq, Repr

def Instants.frozen {R : Type} (now : R) : Instants R := ⟨now, now, now⟩

namespace Runner

variable {R : Type} [Scalar R]

def create (gains : Gains R) (source : String) : Except (Fault R) (Runner R) :=
  match DistanceSource.ofName? source with
  | none => .error (.unknownSource source)
  | some src =>
    if lt gains.segmentPause 0 then .error (.negativePause gains.segmentPause)
    else .ok {
      gains, source := src
      turn := .ofRates gains.turnSpeed gains.turnTolerance
      phase := .idle, plan := [], completed := 0, stopPending := false, pauseUntil := none
      active := false, heading := none, travelStart := 0, travelOrigin := (0, 0) }

def isRunning (r : Runner R) : Bool := r.phase == .turning || r.phase == .travelling

def succeeded (r : Runner R) : Bool := r.phase == .complete

def isFinished (r : Runner R) : Bool :=
  r.succeeded || (r.phase == .cancelled && !r.stopPending)

def isPausing (r : Runner R) : Bool := r.isRunning && r.pauseUntil.isSome

def remaining (r : Runner R) : Nat := r.plan.length

def phaseOf : List (Segment R) → Phase
  | [] => .complete
  | .turn _ :: _ => .turning
  | .travel _ :: _ => .travelling

def reset (r : Runner R) (plan : List (Segment R)) : Runner R :=
  { r with plan, completed := 0, stopPending := false, pauseUntil := none, active := false }

def start (r : Runner R) (items : List (PlanItem R)) (heading : Option R) :
    Outcome R (Runner R) Unit :=
  match Plan.check items with
  | .error why => .fail r (.plan why) []
  | .ok plan =>
    if r.isRunning then .fail r .planRunning []
    else
      let r := r.reset plan
      match heading with
      | none =>
        .ok { r with heading := none, phase := phaseOf plan } () [.planStarted plan.length]
      | some h =>
        match Angle.normalize h with
        | none => .fail r .domain []
        | some h =>
          .ok { r with heading := some h, phase := phaseOf plan } () [.planStarted plan.length]

def cancel (r : Runner R) : Runner R × List (Note R) :=
  if r.isRunning then
    ({ r with plan := [], active := false, pauseUntil := none, stopPending := true,
              phase := .cancelled },
      [.planCancelled (r.completed + 1)])
  else (r, [])

/-- Drops the finished segment; a pause follows unless it was the last. -/
def advance (r : Runner R) (now : R) : Runner R × List (Note R) :=
  let plan := r.plan.tail
  let r := { r with plan, completed := r.completed + 1, active := false, phase := phaseOf plan }
  if plan.isEmpty then (r, [.planComplete r.completed])
  else if lt 0 r.gains.segmentPause then
    ({ r with pauseUntil := some (now + r.gains.segmentPause) }, [])
  else (r, [])

def beginTurn (r : Runner R) (target : R) : Outcome R (Runner R) Unit :=
  if r.active then .ok r () []
  else
    ((r.turn.begin target).within fun turn => { r with turn }).andThen fun r _ =>
      .ok { r with active := true } () []

def stepTurn (r : Runner R) (now yaw : R) : Outcome R (Runner R) (Option (Command R)) :=
  ((r.turn.step yaw).within fun turn => { r with turn }).andThen fun r command =>
    if r.turn.turning then .ok r command []
    else
      let (r, notes) := { r with heading := some r.turn.target }.advance now
      .ok r command notes

def beginTravel (r : Runner R) (now distance : R) (pose : Pose R) : Outcome R (Runner R) Unit :=
  if r.active then .ok r () []
  else
    let r := { r with travelStart := now, travelOrigin := (pose.x, pose.y) }
    match r.heading with
    | some _ => .ok { r with active := true } () [.travelStarted distance]
    | none =>
      match Angle.normalize pose.yaw with
      | none => .fail r .domain []
      | some h => .ok { r with heading := some h, active := true } () [.travelStarted distance]

def measured (r : Runner R) (pose : Pose R) : Option R :=
  match r.source with
  | .elapsed => none
  | .pose => some (hypot (pose.x - r.travelOrigin.1) (pose.y - r.travelOrigin.2))

def holdHeading (r : Runner R) (now : R) (pose : Pose R) :
    Except (Fault R) (HeadingHold.Reading R) × List (Note R) :=
  HeadingHold.step r.gains.headingGain r.gains.headingLimit (now - r.travelStart)
    r.gains.travelSpeed pose.yaw (r.heading.getD 0) (r.measured pose)

def stepTravel (r : Runner R) (t : Instants R) (distance : R) (pose : Pose R) :
    Outcome R (Runner R) (Option (Command R)) :=
  let (result, notes) := r.holdHeading t.travel pose
  match result with
  | .error why => .fail r why notes
  | .ok reading =>
    if le distance reading.distance then
      let (r, more) := r.advance t.finish
      .ok r (some .stop) (notes ++ .travelComplete reading.distance :: more)
    else .ok r (some reading.command) notes

def drive (r : Runner R) (t : Instants R) (pose : Pose R) :
    Outcome R (Runner R) (Option (Command R)) :=
  match r.plan with
  | [] => .fail r .noSegment []
  | .turn h :: _ => (r.beginTurn h).andThen fun r _ => r.stepTurn t.finish pose.yaw
  | .travel d :: _ => (r.beginTravel t.travel d pose).andThen fun r _ => r.stepTravel t d pose

def pausedAt (r : Runner R) (now : R) : Bool :=
  match r.pauseUntil with
  | some t => lt now t
  | none => false

/-- One tick of the plan: the command to forward, or none where no plan runs. -/
def tickAt (r : Runner R) (t : Instants R) (sample : Option (Pose R)) :
    Outcome R (Runner R) (Option (Command R)) :=
  if r.phase = .cancelled then
    if r.stopPending then .ok { r with stopPending := false } (some .stop) [] else .ok r none []
  else if !r.isRunning then .ok r none []
  else if r.pausedAt t.pause then .ok r (some .still) []
  else
    let r := { r with pauseUntil := none }
    match sample with
    | none => .ok r (some .still) [.awaitingPose]
    | some pose => r.drive t pose

def tick (r : Runner R) (now : R) (sample : Option (Pose R)) :
    Outcome R (Runner R) (Option (Command R)) :=
  r.tickAt (.frozen now) sample

end Runner
end Quadruped
