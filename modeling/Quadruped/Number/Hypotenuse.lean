import Quadruped.Number.Steps

/-!
The length of a planar displacement: the root of a compensated sum of two squares, corrected once by
what its own square leaves of the sum. It is the nearest double but for a few exact ties.
-/
namespace Quadruped.Number

/-- A running sum, and what rounding has taken from it at the squares of the high halves, at the
mixed products and at the squares of the low halves. -/
structure SquareSum where
  total : Float
  lostHigh : Float
  lostMixed : Float
  lostLow : Float

namespace SquareSum

def empty : SquareSum := ⟨1.0, 0.0, 0.0, 0.0⟩

/-- Two halves of a double that are short enough to be multiplied without rounding. -/
def halves (x : Float) : Float × Float :=
  let t := x * 134217729.0
  let high := t - (t - x)
  (high, x - high)

def lost (before after term : Float) : Float := (before - after) + term

def addSquare (s : SquareSum) (sign x : Float) : SquareSum :=
  let (high, low) := halves x
  let a := sign * high * high
  let b := sign * 2.0 * high * low
  let c := sign * low * low
  let ta := s.total + a
  let tb := ta + b
  let tc := tb + c
  ⟨tc, s.lostHigh + lost s.total ta a, s.lostMixed + lost ta tb b, s.lostLow + lost tb tc c⟩

/-- The sum starts from one, so that every term is the smaller one where it is added. -/
def value (s : SquareSum) : Float :=
  s.total - 1.0 + (s.lostHigh + s.lostMixed + s.lostLow)

end SquareSum

def scaledHypotenuse (x y : Float) : Float :=
  let s := (SquareSum.empty.addSquare 1.0 x).addSquare 1.0 y
  let root := s.value.sqrt
  root + (s.addSquare (-1.0) root).value / (2.0 * root)

def tinyHypotenuse (x y greatest : Float) : Float :=
  let a := (x / greatest) * (x / greatest)
  let b := (y / greatest) * (y / greatest)
  let ta := 1.0 + a
  let tb := ta + b
  greatest * (tb - 1.0 + (SquareSum.lost 1.0 ta a + SquareSum.lost ta tb b)).sqrt

def finiteHypotenuse (x y : Float) : Float :=
  let greatest := if x < y then y else x
  let top := (steps greatest).log2
  if steps greatest = 0 then greatest
  else if top < 50 then tinyHypotenuse x y greatest
  else
    let scale := ofSteps false (twoTo (2147 - top)) 0
    scaledHypotenuse (x * scale) (y * scale) / scale

def hypotenuse (x y : Float) : Float :=
  if isFinite x && isFinite y then
    finiteHypotenuse (signed false (magnitude x)) (signed false (magnitude y))
  else if magnitude x == infinity || magnitude y == infinity then infinite false
  else notANumber

end Quadruped.Number
