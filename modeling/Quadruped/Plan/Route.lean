import Quadruped.Angle
import Quadruped.Plan.Segment

/-!
A route is resolved from the heading it starts with: each turn is added to the heading before it.
-/
namespace Quadruped.Route

variable {R : Type} [Scalar R]

def resolveFrom : R → List (RouteStep R) → Option (List (Segment R))
  | _, [] => some []
  | heading, .turn a :: rest => do
    let h ← Angle.normalize (heading + a)
    let ss ← resolveFrom h rest
    some (.turn h :: ss)
  | heading, .travel d :: rest => (resolveFrom heading rest).map (.travel d :: ·)

/-- The segments of a route; none where a heading on the way is infinite. -/
def resolve (steps : List (RouteStep R)) (heading : R) : Option (List (Segment R)) :=
  (Angle.normalize heading).bind fun h => resolveFrom h steps

end Quadruped.Route
