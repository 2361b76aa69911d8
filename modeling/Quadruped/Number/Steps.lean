import Quadruped.Number.Scalar

/-!
A finite double is a whole number of steps of 2⁻¹⁰⁷⁴. Here a double is read as its steps, and a
number of steps, or of fractions of a step, is rounded to the nearest double.
-/
namespace Quadruped.Number

abbrev twoTo (n : Nat) : Nat := Nat.pow 2 n

abbrev tenTo (n : Nat) : Nat := Nat.pow 10 n

/-- The whole number nearest to `n / d`; a tie goes to the even one. -/
def roundDiv (n d : Nat) : Nat :=
  let q := n / d
  let r := n % d
  if d < 2 * r || (2 * r == d && q % 2 == 1) then q + 1 else q

def magnitude (x : Float) : Nat := x.toBits.toNat % twoTo 63

def isNegative (x : Float) : Bool := twoTo 63 ≤ x.toBits.toNat

/-- The magnitude of infinity: finite doubles lie below it, those that are no number above it. -/
def infinity : Nat := 2047 * twoTo 52

def isFinite (x : Float) : Bool := magnitude x < infinity

def isNaN (x : Float) : Bool := infinity < magnitude x

def stepsOf (m : Nat) : Nat :=
  if m < twoTo 52 then m else (twoTo 52 + m % twoTo 52) * twoTo (m / twoTo 52 - 1)

/-- The absolute value of a finite double, in steps. -/
def steps (x : Float) : Nat := stepsOf (magnitude x)

/-- The magnitude of the double nearest to `n / 2 ^ extra` steps; ties go to the even one. -/
def magnitudeOf (n extra : Nat) : Nat :=
  let drop := max extra (n.log2 - 52)
  min ((drop - extra) * twoTo 52 + roundDiv n (twoTo drop)) infinity

def signed (negative : Bool) (m : Nat) : Float :=
  Float.ofBits (UInt64.ofNat (if negative then twoTo 63 + m else m))

def ofSteps (negative : Bool) (n extra : Nat) : Float :=
  signed negative (magnitudeOf n extra)

def notANumber : Float := Float.ofBits 0x7FF8000000000000

def infinite (negative : Bool) : Float := signed negative infinity

/-- The double nearest to `m * 10 ^ e`. A power of ten is no less than that of eight: from 2¹⁰²⁴ on
all is infinite, below 2⁻¹⁰⁷⁵ all is zero, and in between the powers are small enough to be taken. -/
def ofDecimal (negative : Bool) (m : Nat) (e : Int) : Float :=
  if m = 0 then signed negative 0
  else if 0 ≤ e then
    if 1024 ≤ m.log2 + 3 * e.toNat then infinite negative
    else ofSteps negative (m * tenTo e.toNat * twoTo 1074) 0
  else
    let places := (-e).toNat
    if m.log2 + 1076 ≤ 3 * places then signed negative 0
    else
      let num := m * twoTo 1138
      let den := tenTo places
      ofSteps negative (2 * (num / den) + (if num % den = 0 then 0 else 1)) 65

end Quadruped.Number
