import Quadruped.Supervisor.Basic
import Quadruped.Teleop.Gamepad
import Quadruped.Teleop.Keyboard
import Quadruped.Teleop.Keys
import Quadruped.Teleop.Script

/-!
The reader takes keys from a source and applies what they are bound to: a mode to select, the help,
or the end of the session. Keys without a binding are ignored.
-/
namespace Quadruped

/-- A source of keys and the screen that goes with it. Any call may fail. -/
class Equipment (R : outParam Type) (σ : Type) where
  start : σ → Outcome R σ Unit
  poll : σ → Outcome R σ (Option String)
  print : String → σ → Outcome R σ Unit
  stop : σ → Outcome R σ Unit

/-- Where the keys come from; a controller or a terminal is held as it stands at the moment. -/
inductive KeySource (R : Type) where
  | script (s : KeyScript)
  | keyboard (k : Keyboard) (t : Terminal)
  | gamepad (g : Gamepad R) (c : Controllers) (now : Snapshot R)
deriving DecidableEq, Repr

namespace KeySource

variable {R : Type} [Scalar R]

def start : KeySource R → Outcome R (KeySource R) Unit
  | script s => let (s, notes) := s.start; .ok (script s) () notes
  | keyboard k t => (k.start t).1.within fun kt => keyboard kt.1 kt.2
  | gamepad g c now => (g.start c now).1.within (gamepad · c now)

def stop : KeySource R → KeySource R × List (Note R)
  | script s => let (s, notes) := s.stop; (script s, notes)
  | keyboard k t => let ((k, t), notes, _) := k.stop t; (keyboard k t, notes)
  | gamepad g c now => let (g, notes, _) := g.stop; (gamepad g c now, notes)

def poll : KeySource R → KeySource R × Option String × List (Note R)
  | script s => let (s, key) := s.poll; (script s, key, [])
  | keyboard k t => let (t, key) := k.poll t; (keyboard k t, key, [])
  | gamepad g c now => let (g, key, notes, _) := g.poll c now; (gamepad g c now, key, notes)

def reset : KeySource R → KeySource R
  | script s => script s.reset
  | source => source

/-- Whether no key is left to come; of a controller that is never known. -/
def exhausted : KeySource R → Bool
  | script s => s.exhausted
  | keyboard _ t => t.pending.isEmpty
  | gamepad .. => false

end KeySource

/-- Only the start of a source of keys can fail, and a screen takes every line. -/
instance {R : Type} [Scalar R] : Equipment R (KeySource R) where
  start := KeySource.start
  poll source := let (source, key, notes) := source.poll; .ok source key notes
  print _ source := .ok source () []
  stop source := let (source, notes) := source.stop; .ok source () notes

structure KeyEvent where
  key : String
  binding : KeyBinding
deriving DecidableEq, Repr

structure KeyReader (σ : Type) where
  source : σ
  echo : Bool
  events : Nat
deriving DecidableEq, Repr

abbrev Reader (R : Type) := KeyReader (KeySource R)

namespace KeyReader

variable {R σ : Type}

def ofSource (source : σ) (echo : Bool) : KeyReader σ := ⟨source, echo, 0⟩

structure Poll (R σ : Type) where
  reader : KeyReader σ
  supervisor : Supervisor R
  result : Except (Fault R) (Option KeyEvent)
  printed : List String
  notes : List (Note R)

def Poll.event (p : Poll R σ) : Option KeyEvent := p.result.toOption.join

def act (s : Supervisor R) : KeyAction → Supervisor R × List (Note R)
  | .select m => s.setMode m
  | .help => (s, [])
  | .exit => (s.stop, [.exitRequested])

def lineOf (b : KeyBinding) : String :=
  match b.action with
  | .help => helpText
  | _ => b.feedback

variable [Equipment R σ]

def say (r : KeyReader σ) (text : String) : Outcome R (KeyReader σ) (List String) :=
  if r.echo then
    ((Equipment.print text r.source).within fun source => { r with source }).andThen
      fun r _ => .ok r [text] []
  else .ok r [] []

/-- A line that cannot be printed comes after the supervisor has been changed. -/
def applyKey (r : KeyReader σ) (s : Supervisor R) (key : String) : Poll R σ :=
  match KeyBinding.lookup key with
  | none => ⟨r, s, .ok none, [], [.keyIgnored key]⟩
  | some b =>
    let (s, notes) := act s b.action
    let o := r.say (lineOf b)
    match o.result with
    | .error why => ⟨o.state, s, .error why, [], notes ++ o.notes⟩
    | .ok printed =>
      ⟨{ o.state with events := o.state.events + 1 }, s, .ok (some ⟨key, b⟩), printed,
        notes ++ o.notes⟩

def poll (r : KeyReader σ) (s : Supervisor R) : Poll R σ :=
  let o := Equipment.poll r.source
  let r := { r with source := o.state }
  match o.result with
  | .error why => ⟨r, s, .error why, [], o.notes⟩
  | .ok none => ⟨r, s, .ok none, [], o.notes⟩
  | .ok (some key) =>
    let p := r.applyKey s key
    { p with notes := o.notes ++ p.notes }

end KeyReader
end Quadruped
