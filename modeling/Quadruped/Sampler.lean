import Quadruped.Cell
import Quadruped.Outcome
import Quadruped.Pose

/-!
The newest pose that has arrived, and how to wait for the first one.
-/
namespace Quadruped

open Scalar

structure Sampler (R : Type) where
  slot : Cell (Option (Pose R))
  count : Nat
deriving DecidableEq, Repr

namespace Sampler

variable {R : Type}

def empty : Sampler R := ⟨⟨none⟩, 0⟩

def update (s : Sampler R) (p : Pose R) : Sampler R × List (Note R) :=
  (⟨s.slot.set (some p), s.count + 1⟩, if s.count = 0 then [.firstPose p.yaw] else [])

def updateTimes (p : Pose R) : Nat → Sampler R → Sampler R × List (Note R)
  | 0, s => (s, [])
  | n + 1, s =>
    let (s, notes) := s.update p
    let (s, more) := updateTimes p n s
    (s, notes ++ more)

def isReady (s : Sampler R) : Bool := s.slot.value.isSome

def latest (s : Sampler R) : Except (Fault R) (Pose R) :=
  match s.slot.value with
  | some p => .ok p
  | none => .error .noPose

/-- A wait for the first pose: it is looked for now and then, until the deadline has passed. -/
structure Wait (R : Type) where
  timeout : R
  deadline : R
  interval : R
deriving DecidableEq, Repr

/-- What a look finds: a pose, that it is too late, or how long to sleep until the next look. -/
inductive Look (R : Type) where
  | found (p : Pose R)
  | expired (why : Fault R)
  | again (after : R)
deriving DecidableEq, Repr

variable [Scalar R]

def Wait.ofTimeout (timeout interval now : R) : Wait R := ⟨timeout, now + timeout, interval⟩

def look (s : Sampler R) (w : Wait R) (now : R) : Look R :=
  match s.slot.value with
  | some p => .found p
  | none => if le w.deadline now then .expired (.noPoseWithin w.timeout) else .again w.interval

end Sampler
end Quadruped
