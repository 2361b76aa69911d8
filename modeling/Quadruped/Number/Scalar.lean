/-!
What the control laws ask of a number. The program runs on doubles; a law that is read with exact
numbers is the same definition at another instance.
-/
namespace Quadruped

/-- Numbers with comparisons that can be evaluated and the few functions that angles need. -/
class Scalar (R : Type) extends Zero R, Add R, Sub R, Mul R, Neg R where
  lt : R → R → Bool
  le : R → R → Bool
  /-- Equality of values; a number that is no value differs from itself. -/
  eq : R → R → Bool
  finite : R → Bool
  pi : R
  /-- What is left of the first after the multiple of the second nearest to it, a tie going to the
  even multiple; nothing where that has no meaning. -/
  remainder : R → R → Option R
  hypot : R → R → R
  sin : R → R
  cos : R → R

namespace Scalar

variable {R : Type} [Scalar R]

def twoPi : R := pi + pi

def absolute (a : R) : R := if lt a 0 then -a else a

/-- The second number if it is greater, else the first. -/
def larger (a b : R) : R := if lt a b then b else a

def smaller (a b : R) : R := if lt b a then b else a

end Scalar
end Quadruped
