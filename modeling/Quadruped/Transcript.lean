import Quadruped.Note

/-!
What a program writes, in order: notes for the log, and lines printed for the operator.
-/
namespace Quadruped

inductive Line (R : Type) where
  | note (n : Note R)
  | print (text : String)
deriving DecidableEq, Repr

namespace Line

variable {R : Type}

def note? : Line R → Option (Note R)
  | note n => some n
  | print _ => none

def printed? : Line R → Option String
  | note _ => none
  | print s => some s

end Line

def printedText {R : Type} (lines : List (Line R)) : String :=
  String.join ((lines.filterMap Line.printed?).map (· ++ "\n"))

def notesFrom {R : Type} (level : Level) (notes : List (Note R)) : List (Note R) :=
  notes.filter fun n => level.rank ≤ n.level.rank

end Quadruped
