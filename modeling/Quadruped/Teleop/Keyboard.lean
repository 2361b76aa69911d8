import Quadruped.Outcome

/-!
A terminal as a source of keys. It is switched to give every key at once and without echo, and
switched back at the end.
-/
namespace Quadruped

/-- The settings of a terminal that the keyboard touches, and all the others as one number. -/
structure Attributes where
  lineMode : Bool
  echo : Bool
  others : Nat
deriving DecidableEq, Repr

structure Terminal where
  interactive : Bool
  attributes : Attributes
  pending : List Nat
deriving DecidableEq, Repr

inductive TerminalCall where
  | getAttributes
  | setKeyMode
  | restore
deriving DecidableEq, Repr

def TerminalCall.name : TerminalCall → String
  | getAttributes => "tcgetattr"
  | setKeyMode => "setcbreak"
  | restore => "tcsetattr:attrs"

namespace Terminal

def fresh (interactive : Bool) (pending : List Nat) : Terminal :=
  ⟨interactive, ⟨true, true, 0⟩, pending⟩

def keyMode (t : Terminal) : Terminal :=
  { t with attributes := { t.attributes with lineMode := false, echo := false } }

end Terminal

structure Keyboard where
  saved : Option Attributes
  running : Bool
deriving DecidableEq, Repr

namespace Keyboard

variable {R : Type}

def closed : Keyboard := ⟨none, false⟩

/-- The attributes are saved only by a start that finds the keyboard closed. -/
def start (k : Keyboard) (t : Terminal) :
    Outcome R (Keyboard × Terminal) Unit × List TerminalCall :=
  if k.running then (.ok (k, t) () [], [])
  else if t.interactive then
    (.ok (⟨some t.attributes, true⟩, t.keyMode) () [.keyboardStarted],
      [.getAttributes, .setKeyMode])
  else (.fail (k, t) .noTerminal [], [])

def stop (k : Keyboard) (t : Terminal) :
    (Keyboard × Terminal) × List (Note R) × List TerminalCall :=
  match k.saved with
  | some a => ((closed, { t with attributes := a }), [.keyboardStopped], [.restore])
  | none => ((closed, t), [], [])

/-- The key that a byte stands for: only an ASCII byte is a key of its own. -/
def keyOf (byte : Nat) : Option String :=
  if byte < 128 then some (String.singleton (Char.ofNat byte)) else none

def poll (k : Keyboard) (t : Terminal) : Terminal × Option String :=
  if k.running then
    match t.pending with
    | byte :: rest => ({ t with pending := rest }, keyOf byte)
    | [] => (t, none)
  else (t, none)

end Keyboard
end Quadruped
