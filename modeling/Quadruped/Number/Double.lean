import Quadruped.Number.Hypotenuse
import Quadruped.Number.Remainder
import Quadruped.Number.Trig

/-!
The numbers that the program runs on.
-/
namespace Quadruped

instance : Scalar Float where
  zero := 0.0
  lt a b := a < b
  le a b := a ≤ b
  eq a b := a == b
  finite := Number.isFinite
  pi := 3.141592653589793
  remainder := Number.remainder
  hypot := Number.hypotenuse
  sin := Number.sine
  cos := Number.cosine

namespace Number

def radians (degrees : Float) : Float := degrees * (3.141592653589793 / 180.0)

def degrees (radians : Float) : Float := radians * (180.0 / 3.141592653589793)

end Number
end Quadruped
