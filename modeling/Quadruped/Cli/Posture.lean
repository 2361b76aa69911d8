import Quadruped.Command
import Quadruped.Text.Blank
import Quadruped.Text.Lower
import Quadruped.Text.Quoted

/-!
Postures as an operator writes them: by name, with dashes or underscores, or by the code of the sport
service. One code is a motion and no posture.
-/
namespace Quadruped.Posture

open Text

inductive TextFault where
  | isMotion (code : String)
  | unknown (text : String)
deriving DecidableEq, Repr

def codes : List (String × Posture) := [
  ("0", standUp), ("1", balanceStand), ("3", standDown), ("4", standUp), ("5", damp),
  ("6", recoveryStand), ("7", sit), ("8", riseSit), ("99", stop)]

def motionCode : String := "2"

def TextFault.message : TextFault → String
  | isMotion c =>
    s!"Code {c} is a motion, not a posture: velocity_move (use --mode teleop or a --plan route)"
  | unknown t =>
    s!"Unknown posture {quoted t.toList} (choose from: " ++
      String.intercalate ", " (all.map name) ++ ")"

def read (s : String) : Except TextFault Posture :=
  let key := String.ofList ((lower (strip s.toList)).map fun c => if c == '-' then '_' else c)
  match codes.lookup key with
  | some p => .ok p
  | none =>
    if key == motionCode then .error (.isMotion key)
    else
      match ofName? key with
      | some p => .ok p
      | none => .error (.unknown s)

end Quadruped.Posture
