import Quadruped.Number.Steps

/-!
Sine and cosine by their power series on numbers with 160 binary places, rounded once to a double.
The angles that occur lie within a turn or so of zero.
-/
namespace Quadruped.Number

def places : Nat := 160

def wholeTurn : Nat := 9182885614096437842769610399486622256908310048836

/-- The double as a number with `places` binary places, taken to within half a turn of zero. -/
def fixedAngle (x : Float) : Int :=
  let a := roundDiv (steps x) (twoTo (1074 - places))
  let r := (a : Int) - wholeTurn * (roundDiv a wholeTurn : Int)
  if isNegative x then -r else r

/-- The sum of `t - t·s/(k+1)(k+2) + …`, each term made from the one before it. -/
def series (square : Int) : Nat → Nat → Int → Int
  | 0, _, term => term
  | n + 1, k, term =>
    term + series square n (k + 2)
      (-(term * square / twoTo places) / ((k + 1) * (k + 2) : Nat))

def ofFixed (v : Int) : Float :=
  ofSteps (v < 0) (min v.natAbs (twoTo places) * twoTo (1074 - places)) 0

/-- Below 2⁻²⁷ the angle is itself the double nearest to its sine. -/
def sine (x : Float) : Float :=
  if !isFinite x then notANumber
  else if steps x < twoTo (1074 - 27) then x
  else
    let a := fixedAngle x
    ofFixed (series (a * a / twoTo places) 32 1 a)

def cosine (x : Float) : Float :=
  if !isFinite x then notANumber
  else
    let a := fixedAngle x
    ofFixed (series (a * a / twoTo places) 32 0 (twoTo places))

end Quadruped.Number
