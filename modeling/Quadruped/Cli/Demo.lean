import Quadruped.Cli.Result
import Quadruped.Session.Demo

/-!
The program that demonstrates a plan, by default a square.
-/
namespace Quadruped.Cli.Demo

def drift : Float := 0.02

def planOf (args : List String) : String := args.headD "square"

def run (args : List String) (interruptAt : Option Float) : Except (Fault Float) Result := do
  let f ← Quadruped.Demo.run (planOf args) drift interruptAt
  let lines := f.house.lines.reverse
  match Quadruped.Demo.result f with
  | some (.error why) => .error why
  | some (.ok finished) => .ok ⟨some (if finished then 0 else 1), lines, "", .info, f.now⟩
  | none => .ok ⟨some 1, lines ++ [.note .demoInterrupted], "", .info, f.now⟩

end Quadruped.Cli.Demo
