import Quadruped.Outcome
import Quadruped.Plan.Segment

/-!
A plan is checked before it runs: it has segments, each a turn to a finite heading or a travel over
a finite positive distance.
-/
namespace Quadruped.Plan

open Scalar

variable {R : Type} [Scalar R]

def checkItem (index : Nat) : PlanItem R → Except (PlanFault R) (Segment R)
  | .segment (.turn h) => if finite h then .ok (.turn h) else .error (.turnNotFinite index)
  | .segment (.travel d) =>
    if finite d && !le d 0 then .ok (.travel d) else .error (.travelNotPositive index d)
  | .foreign t => .error (.unknownSegment index t)

def checkFrom : Nat → List (PlanItem R) → Except (PlanFault R) (List (Segment R))
  | _, [] => .ok []
  | index, item :: rest => do
    let s ← checkItem index item
    let ss ← checkFrom (index + 1) rest
    .ok (s :: ss)

def check (items : List (PlanItem R)) : Except (PlanFault R) (List (Segment R)) :=
  if items.isEmpty then .error .empty else checkFrom 0 items

end Quadruped.Plan
