import Quadruped.Settings.Basic

/-!
The settings that a program shares: they are opened when they are first asked for, and again only on
demand. What a file has added to the environment stays there.
-/
namespace Quadruped.Settings

structure Shared where
  environment : Environment
  openings : Nat
  loaded : Bool
deriving DecidableEq, Repr

namespace Shared

def ofEnvironment (e : Environment) : Shared := ⟨e, 0, false⟩

def get (s : Shared) (reload : Bool) (path : String) : Except EnvironmentFault Shared :=
  if s.openings = 0 || reload then
    (openAt s.environment path).map fun o => ⟨o.environment, s.openings + 1, o.found⟩
  else .ok s

end Shared
end Quadruped.Settings
