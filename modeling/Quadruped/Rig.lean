import Quadruped.Sampler
import Quadruped.Simulator

/-!
The simulated robot as a supervisor meets it: a sampler subscribed to its poses, and failures that
can be rehearsed.
-/
namespace Quadruped

inductive Connecting where
  | accepts
  | refuses
  | fails
deriving DecidableEq, Repr

/-- What is rehearsed to fail; sends are counted from one, connected or not. -/
structure Hazards where
  sends : List Nat
  connecting : Connecting
  disconnects : Bool
  deaf : Bool
deriving DecidableEq, Repr

def Hazards.none : Hazards := ⟨[], .accepts, false, false⟩

structure Rig (R : Type) where
  simulator : Simulator R
  hazards : Hazards
  sendCalls : Nat
  subscriptions : Nat
deriving DecidableEq, Repr

inductive Reply (R : Type) where
  | ok
  | refused
  | raised (why : Fault R)
  | cancelled
deriving DecidableEq, Repr

namespace Rig

variable {R : Type} [Scalar R]

def ofSimulator (s : Simulator R) (h : Hazards) : Rig R := ⟨s, h, 0, 0⟩

def subscribe (r : Rig R) : Rig R :=
  if r.hazards.deaf then r else { r with subscriptions := r.subscriptions + 1 }

structure Answer (R : Type) where
  rig : Rig R
  sampler : Sampler R
  reply : Reply R
  notes : List (Note R)

def deliver (r : Rig R) (sampler : Sampler R) (o : Outcome R (Simulator R) (Option (Pose R))) :
    Answer R :=
  let r := { r with simulator := o.state }
  match o.result with
  | .error why => ⟨r, sampler, .raised why, o.notes⟩
  | .ok none => ⟨r, sampler, .ok, o.notes⟩
  | .ok (some p) =>
    let (sampler, notes) := Sampler.updateTimes p r.subscriptions sampler
    ⟨r, sampler, .ok, o.notes ++ notes⟩

def connect (r : Rig R) (sampler : Sampler R) (interface : String) (t : Simulator.Readings R) :
    Answer R :=
  match r.hazards.connecting with
  | .accepts => r.deliver sampler (r.simulator.connect interface t)
  | .refuses => ⟨r, sampler, .refused, []⟩
  | .fails => ⟨r, sampler, .raised (.breakdown .connect), []⟩

def send (r : Rig R) (sampler : Sampler R) (c : Command R) (t : Simulator.Readings R) : Answer R :=
  let r := { r with sendCalls := r.sendCalls + 1 }
  if r.hazards.sends.contains r.sendCalls then ⟨r, sampler, .raised (.breakdown .send), []⟩
  else r.deliver sampler (r.simulator.send c t)

def disconnect (r : Rig R) (sampler : Sampler R) : Answer R :=
  if r.hazards.disconnects then ⟨r, sampler, .raised (.breakdown .disconnect), []⟩
  else
    let o := r.simulator.disconnect
    ⟨{ r with simulator := o.state }, sampler, .ok, o.notes⟩

end Rig
end Quadruped
