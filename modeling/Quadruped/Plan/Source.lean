import Quadruped.Plan.Reading

/-!
A plan as it is handed over: its items, or a route to be built from the heading at hand.
-/
namespace Quadruped

inductive PlanSource where
  | items (list : List (PlanItem Float))
  | route (text : String)
deriving DecidableEq, Repr

/-- A route starts from zero where no heading is given. -/
def PlanSource.resolve (heading : Option Float) :
    PlanSource → Except (Fault Float) (List (PlanItem Float)) × List (Note Float)
  | .items list => (.ok list, [])
  | .route text =>
    let (result, notes) := Route.build text (heading.getD 0)
    (result.map (·.map .segment), notes)

end Quadruped
