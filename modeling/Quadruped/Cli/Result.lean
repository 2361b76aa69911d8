import Quadruped.Note.Text
import Quadruped.Transcript

/-!
What a program leaves behind when it ends: its exit code, what it wrote, and the time.
-/
namespace Quadruped.Cli

structure Result where
  exit : Option Int
  lines : List (Line Float)
  errors : String
  level : Level
  now : Float

/-- A line of the log as it is printed, with a mark in place of the time. -/
def logLine (n : Note Float) : String := s!"T - {n.source} - {n.level.name} - {n.text}"

def Result.output (r : Result) : String :=
  String.join (r.lines.filterMap fun l =>
    match l with
    | .print s => some (s ++ "\n")
    | .note n => if r.level.rank ≤ n.level.rank then some (logLine n ++ "\n") else none)

end Quadruped.Cli
