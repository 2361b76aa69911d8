import Quadruped.Number.Steps

/-!
The exact remainder of two doubles. Both are whole numbers of steps, and what is left after the
nearest multiple is at most half the divisor, so the result is a double and nothing is rounded.
-/
namespace Quadruped.Number

def leftOver (a b : Nat) : Int := (a : Int) - (b : Int) * (roundDiv a b : Int)

/-- The remainder takes the sign of `x` where it is zero; an infinite `x` and a zero `y` have none. -/
def remainder (x y : Float) : Option Float :=
  if isNaN x then some x
  else if isNaN y then some y
  else if !isFinite x then none
  else if !isFinite y then some x
  else if steps y = 0 then none
  else
    let r := leftOver (steps x) (steps y)
    some (ofSteps (if r < 0 then !isNegative x else isNegative x) r.natAbs 0)

end Quadruped.Number
