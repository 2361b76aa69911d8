import Quadruped.Outcome

/-!
A fixed rate that does not drift with the time spent between two frames. A frame that is late sets
the schedule anew, so that no burst of frames follows.
-/
namespace Quadruped

open Scalar

structure Keeper (R : Type) where
  period : R
  lagWarning : Option R
  due : R
  frame : Nat
deriving DecidableEq, Repr

namespace Keeper

variable {R : Type} [Scalar R]

def create (period : R) (lagWarning : Option R) (now : R) : Except (Fault R) (Keeper R) :=
  if le period 0 then .error .periodNotPositive else .ok ⟨period, lagWarning, now + period, 0⟩

def isLagging (k : Keeper R) (remaining : R) : Bool :=
  match k.lagWarning with
  | some l => lt remaining (-l)
  | none => false

/-- The time left until the frame is due, negative where it is late; the next one is set. -/
def monitor (k : Keeper R) (now : R) : Keeper R × R × List (Note R) :=
  let remaining := k.due - now
  let base := if lt remaining 0 then now else k.due
  ({ k with due := base + k.period, frame := k.frame + 1 }, remaining,
    if k.isLagging remaining then [.lagging (-remaining) k.frame] else [])

def pause (remaining : R) : R := if lt 0 remaining then remaining else 0

def keep (k : Keeper R) (now : R) : Keeper R × R × List (Note R) :=
  let (k, remaining, notes) := k.monitor now
  (k, if lt 0 remaining then larger now (now + remaining) else now, notes)

end Keeper
end Quadruped
