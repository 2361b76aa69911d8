import Quadruped.Outcome

/-!
Keys from a script, one at each poll; an entry may be a poll without a key.
-/
namespace Quadruped

structure KeyScript where
  keys : List (Option String)
  read : Nat
  running : Bool
deriving DecidableEq, Repr

namespace KeyScript

variable {R : Type}

def ofKeys (keys : List (Option String)) : KeyScript := ⟨keys, 0, false⟩

def start (s : KeyScript) : KeyScript × List (Note R) :=
  ({ s with running := true, read := 0 }, [.scriptStarted s.keys.length])

def stop (s : KeyScript) : KeyScript × List (Note R) := ({ s with running := false }, [.scriptStopped])

def poll (s : KeyScript) : KeyScript × Option String :=
  if s.running then
    match s.keys[s.read]? with
    | some key => ({ s with read := s.read + 1 }, key)
    | none => (s, none)
  else (s, none)

def exhausted (s : KeyScript) : Bool := s.keys.length ≤ s.read

def reset (s : KeyScript) : KeyScript := { s with read := 0 }

def escapeKey : String := "\x1b"

def named : List (String × List (Option String)) := [
  ("forward_stop", [some "w", none, none, none, some " ", none, some escapeKey]),
  ("turn_in_place",
    [some "a", none, none, some "d", none, none, some " ", some escapeKey]),
  ("strafe", [some "q", none, some "e", none, some " ", some escapeKey]),
  ("stand_cycle", [some "f", none, none, some "r", none, none, some " ", some escapeKey])]

/-- The named script in place of the keys; an unknown name changes nothing. -/
def load (s : KeyScript) (name : String) : KeyScript × List (Note R) :=
  match named.find? (·.1 == name) with
  | some (_, keys) => ({ s with keys, read := 0 }, [.scriptLoaded name keys.length])
  | none => (s, [.scriptUnknown name])

end KeyScript
end Quadruped
