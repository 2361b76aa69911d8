import Quadruped.Number.Steps
import Quadruped.Text.Blank
import Quadruped.Text.Digit

/-!
Numbers read from text: an optional sign, digits of any script with single underscores between
them, and for a double also a point, an exponent, or a name of infinity or of no number.
-/
namespace Quadruped.Number

open Quadruped.Text

/-- The four separators of ASCII are blanks elsewhere but not around a number. -/
def isBlankAround (c : Char) : Bool := isBlank c && !(28 ≤ c.toNat && c.toNat ≤ 31)

/-- Digits with single underscores between them, as values, and the rest; `after` says whether a
digit stands before. -/
def digitRun : List Char → Bool → List Nat × List Char
  | [], _ => ([], [])
  | c :: rest, after =>
    match digitValue? c with
    | some d => let (ds, left) := digitRun rest true; (d :: ds, left)
    | none =>
      if after && c == '_' then
        match rest with
        | [] => ([], c :: rest)
        | c' :: rest' =>
          match digitValue? c' with
          | some d => let (ds, left) := digitRun rest' true; (d :: ds, left)
          | none => ([], c :: rest)
      else ([], c :: rest)

def valueOf (digits : List Nat) : Nat := digits.foldl (fun n d => 10 * n + d) 0

def readSign : List Char → Bool × List Char
  | '-' :: rest => (true, rest)
  | '+' :: rest => (false, rest)
  | cs => (false, cs)

def readExponent : List Char → Option Int
  | [] => some 0
  | c :: rest =>
    if c == 'e' || c == 'E' then
      let (negative, body) := readSign rest
      match digitRun body false with
      | ([], _) => none
      | (ds, []) => some (if negative then -(valueOf ds : Int) else valueOf ds)
      | _ => none
    else none

def readFraction : List Char → List Nat × List Char
  | '.' :: rest => digitRun rest false
  | cs => ([], cs)

def readDecimal (negative : Bool) (cs : List Char) : Option Float :=
  let (whole, rest) := digitRun cs false
  let (fraction, tail) := readFraction rest
  if whole.isEmpty && fraction.isEmpty then none
  else (readExponent tail).map fun e =>
    ofDecimal negative (valueOf (whole ++ fraction)) (e - fraction.length)

def readFloat? (s : List Char) : Option Float :=
  let (negative, body) := readSign (stripBy isBlankAround s)
  let word := String.ofList (body.map Char.toLower)
  if word == "inf" || word == "infinity" then some (infinite negative)
  else if word == "nan" then some notANumber
  else readDecimal negative body

/-- The whole number that the text writes in at most 4300 digits. -/
def readInt? (s : List Char) : Option Int :=
  let (negative, body) := readSign (stripBy isBlankAround s)
  match digitRun body false with
  | ([], _) => none
  | (ds, []) =>
    if 4300 < ds.length then none
    else some (if negative then -(valueOf ds : Int) else valueOf ds)
  | _ => none

end Quadruped.Number
