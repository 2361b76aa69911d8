import Quadruped.Number.Scalar

/-!
Angles in radians, wrapped into the half-open turn from -π (excluded) to π (included), and the two
tests and laws that work on the error between two headings. An infinite angle has no heading.
-/
namespace Quadruped.Angle

open Scalar

variable {R : Type} [Scalar R]

def normalize (angle : R) : Option R :=
  (remainder angle twoPi).map fun w => if le w (-pi) then w + twoPi else w

def error (current target : R) : Option R := normalize (target - current)

/-- The value, not above `high` and then not below `low`; a value that is no number becomes `high`. -/
def clamp (value low high : R) : R := larger low (smaller high value)

def correction (current target gain limit : R) : Option R :=
  (error current target).map fun e => clamp (e * gain) (-limit) limit

/-- The arrival window holds an error of exactly `-tolerance` but not one of `tolerance`. -/
def inWindow (tolerance e : R) : Bool := le (-tolerance) e && lt e tolerance

def atTarget (current target tolerance : R) : Option Bool :=
  (error current target).map (inWindow tolerance)

end Quadruped.Angle
