import Quadruped.Number.Steps

/-!
The shortest decimal that reads back as a given double, and the way such decimals are written.
-/
namespace Quadruped.Number

/-- The number `digits * 10 ^ exponent`. -/
structure Decimal where
  digits : Nat
  exponent : Int
deriving DecidableEq, Repr

/-- The numbers that round to one double, in quarters of a step around `centre`. -/
structure Interval where
  low : Nat
  centre : Nat
  high : Nat
  closed : Bool
deriving DecidableEq, Repr

/-- Below a power of two the neighbours are half as far away as above it. -/
def Interval.ofMagnitude (m : Nat) : Interval :=
  let u := 4 * stepsOf m
  let gap := twoTo (m / twoTo 52 - 1)
  let below := if m % twoTo 52 = 0 && twoTo 53 ≤ m then gap else 2 * gap
  ⟨u - below, u, u + 2 * gap, m % 2 == 0⟩

def Interval.holds (i : Interval) (x : Nat) : Bool :=
  if i.closed then i.low ≤ x && x ≤ i.high else i.low < x && x < i.high

def Interval.scale (i : Interval) (k : Nat) : Interval :=
  ⟨i.low * k, i.centre * k, i.high * k, i.closed⟩

/-- Whether the point below the centre is nearer to it than the one above; a tie goes to the even
digit. -/
def lowerIsNearer (digits below above : Nat) : Bool :=
  below < above || (below == above && digits % 2 == 0)

/-- The multiple of `10 ^ p` in the interval, if there is one: the one nearer to the centre. -/
def Interval.onGrid (i : Interval) (p : Int) : Option Decimal :=
  let j := i.scale (tenTo (-p).toNat)
  let unit := twoTo 1076 * tenTo p.toNat
  let c := j.centre / unit
  let lower := c * unit
  let upper := lower + unit
  if j.holds lower && (!j.holds upper || lowerIsNearer c (j.centre - lower) (upper - j.centre)) then
    some ⟨c, p⟩
  else if j.holds upper then some ⟨c + 1, p⟩
  else none

def Interval.reaches (i : Interval) (k : Int) : Bool :=
  twoTo 1076 * tenTo k.toNat ≤ i.centre * tenTo (-k).toNat

def Interval.leading (i : Interval) : Int :=
  let estimate := ((i.centre.log2 : Int) - 1076) * 1233 / 4096
  if i.reaches (estimate + 1) then estimate + 1
  else if i.reaches estimate then estimate
  else estimate - 1

def Interval.firstHit (i : Interval) : Nat → Int → Decimal
  | 0, p => ⟨0, p⟩
  | n + 1, p => (i.onGrid p).getD (i.firstHit n (p - 1))

/-- Seventeen digits always suffice. -/
def shortest (m : Nat) : Decimal :=
  let i := Interval.ofMagnitude m
  i.firstHit 18 i.leading

def zeros (n : Nat) : String := String.ofList (List.replicate n '0')

def dropZeros (s : List Char) : List Char := (s.reverse.dropWhile (· == '0')).reverse

/-- Positional from 0.0001 up to 10¹⁶, otherwise with an exponent of two digits or more. -/
def Decimal.text (d : Decimal) : String :=
  let written := Nat.toDigits 10 d.digits
  let kept := dropZeros written
  let point := d.exponent + written.length
  let n : Int := kept.length
  if -4 < point && point ≤ 0 then "0." ++ zeros (-point).toNat ++ String.ofList kept
  else if 0 < point && point ≤ 16 then
    if n ≤ point then String.ofList kept ++ zeros (point - n).toNat ++ ".0"
    else String.ofList (kept.take point.toNat) ++ "." ++ String.ofList (kept.drop point.toNat)
  else
    let fraction := if kept.length ≤ 1 then [] else '.' :: kept.drop 1
    let e := point - 1
    let size := toString e.natAbs
    String.ofList (kept.take 1 ++ fraction) ++ "e" ++ (if e < 0 then "-" else "+")
      ++ (if size.length < 2 then "0" else "") ++ size

def text (x : Float) : String :=
  if isNaN x then "nan"
  else
    (if isNegative x then "-" else "") ++
      (if !isFinite x then "inf" else if steps x = 0 then "0.0" else (shortest (magnitude x)).text)

end Quadruped.Number
