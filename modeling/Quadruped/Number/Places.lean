import Quadruped.Number.Steps

/-!
Doubles with a fixed number of places, rounded once from the exact value; a tie goes to the even
digit.
-/
namespace Quadruped.Number

def padded (width : Nat) (n : Nat) : String :=
  let s := Nat.toDigits 10 n
  String.ofList (List.replicate (width - s.length) '0' ++ s)

def unsignedFixed (p : Nat) (x : Float) : String :=
  let q := roundDiv (steps x * tenTo p) (twoTo 1074)
  toString (q / tenTo p) ++ (if p = 0 then "" else "." ++ padded p (q % tenTo p))

def fixed (p : Nat) (x : Float) : String :=
  if isNaN x then "nan"
  else (if isNegative x then "-" else "") ++ (if isFinite x then unsignedFixed p x else "inf")

def signedFixed (p : Nat) (x : Float) : String :=
  if isNaN x || !isNegative x then "+" ++ fixed p x else fixed p x

end Quadruped.Number
