import Quadruped.Pose

/-!
Those who listen to the poses that a robot publishes, and what each of them has heard.
-/
namespace Quadruped

/-- The poses that each subscriber has received, newest first. -/
structure Audience (R : Type) where
  received : List (List (Pose R))
deriving DecidableEq, Repr

namespace Audience

variable {R : Type}

def subscribe (a : Audience R) : Audience R := ⟨a.received ++ [[]]⟩

def hear (a : Audience R) : Option (Pose R) → Audience R
  | some p => ⟨a.received.map (p :: ·)⟩
  | none => a

def count (a : Audience R) : Nat := a.received.foldl (fun n poses => n + poses.length) 0

def newest? (a : Audience R) : Option (Pose R) := a.received.head?.bind List.head?

end Audience

end Quadruped
