import Quadruped.Cli.Operate

/-!
The command. Its settings come from the environment and from a file; everything it prints, and how it
ends, is decided by `Cli.Operate.run`.
-/
namespace Quadruped

def readEnvironment (path : String) : IO Environment := do
  let vars ← Settings.names.filterMapM fun name => do
    return (← IO.getEnv name).map fun value => (name, value)
  match ← (IO.FS.readFile path).toBaseIO with
  | .ok text => return { vars, files := [(path, text)] }
  -- the error of a system that was asked to read a directory
  | .error (.inappropriateType _ 21 _) => return { vars, places := [path] }
  | .error _ => return { vars }

end Quadruped

open Quadruped in
def main (args : List String) : IO UInt32 := do
  let environment ← readEnvironment (Cli.Operate.settingsPath args)
  let interactive ← (← IO.getStdin).isTty
  match Cli.Operate.run environment args ⟨.fresh interactive [], none⟩ with
  | .error why =>
    IO.eprintln why.message
    return 1
  | .ok r =>
    IO.print r.output
    IO.eprint r.errors
    return if r.exit == some 0 then 0 else if r.exit == some 2 then 2 else 1
