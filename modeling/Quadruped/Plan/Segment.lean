/-!
The pieces of a plan: point turns to a heading and straight travels over a distance.
-/
namespace Quadruped

inductive Segment (R : Type) where
  | turn (heading : R)
  | travel (distance : R)
deriving DecidableEq, Repr

/-- What may be offered as a piece of a plan; a text is never one. -/
inductive PlanItem (R : Type) where
  | segment (s : Segment R)
  | foreign (text : String)
deriving DecidableEq, Repr

/-- A step of a route: a turn relative to the heading before it, or a travel. -/
inductive RouteStep (R : Type) where
  | turn (angle : R)
  | travel (distance : R)
deriving DecidableEq, Repr

end Quadruped
