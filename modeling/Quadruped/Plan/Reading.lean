import Quadruped.Number.Double
import Quadruped.Number.Reading
import Quadruped.Outcome
import Quadruped.Plan.Route
import Quadruped.Text.Lower
import Quadruped.Text.Upper

/-!
Routes as text: steps separated by commas, each a letter and a number. F travels so many metres, L
turns left and R right by so many degrees. Blank steps do not count. Some routes have names.
-/
namespace Quadruped.Route

open Number Text

def namedRoutes : List (String × String) := [
  ("out_and_back", "F2.0,L90,L90,F2.0,L90,L90"),
  ("square", "F1.0,L90,F1.0,L90,F1.0,L90,F1.0,L90"),
  ("survey", "F1.0,L20,F1.3,R20,F3.2,L90,F5.3,L90,F7.5,L90,F0.8,L90,F6.0,R90,F3.5,R90,F5.0"),
  ("turn_test", "L90,R90,R90,L90")]

def stepOf (kind : List Char) (value : Float) (token : String) :
    Except (PlanFault Float) (RouteStep Float) :=
  if kind == ['F'] then
    if value ≤ 0 then .error (.stepNotPositive token) else .ok (.travel value)
  else if kind == ['L'] then .ok (.turn (radians value))
  else if kind == ['R'] then .ok (.turn (-radians value))
  else .error (.unknownKind (String.ofList kind) token)

def stepOfStripped (token : List Char) : Except (PlanFault Float) (RouteStep Float) :=
  let shown := String.ofList token
  match token with
  | [] | [_] => .error (.badStep shown)
  | c :: raw =>
    match readFloat? raw with
    | none => .error (.badNumber shown)
    | some v => if isFinite v then stepOf (upper c) v shown else .error (.stepNotFinite shown)

def readStep (token : List Char) : Except (PlanFault Float) (RouteStep Float) :=
  stepOfStripped (strip token)

def tokens : List Char → List (List Char)
  | [] => [[]]
  | c :: rest =>
    if c == ',' then [] :: tokens rest
    else
      match tokens rest with
      | [] => [[c]]
      | t :: ts => (c :: t) :: ts

def isBlankToken (t : List Char) : Bool := t.all isBlank

def readSteps : List (List Char) → Except (PlanFault Float) (List (RouteStep Float))
  | [] => .ok []
  | t :: ts => do
    let s ← readStep t
    let ss ← readSteps ts
    .ok (s :: ss)

def read (route : List Char) : Except (PlanFault Float) (List (RouteStep Float)) :=
  let ts := (tokens route).filter (!isBlankToken ·)
  if ts.isEmpty then .error .empty else readSteps ts

/-- The named route, or else the text itself. -/
def lookup (text : String) : List Char :=
  let key := String.ofList (lower (strip text.toList))
  match namedRoutes.find? (·.1 == key) with
  | some named => named.2.toList
  | none => text.toList

def build (text : String) (heading : Float) :
    Except (Fault Float) (List (Segment Float)) × List (Note Float) :=
  match read (lookup text) with
  | .error why => (.error (.plan why), [])
  | .ok steps =>
    match resolve steps heading with
    | none => (.error .domain, [])
    | some segments => (.ok segments, [.planBuilt segments.length text])

end Quadruped.Route
