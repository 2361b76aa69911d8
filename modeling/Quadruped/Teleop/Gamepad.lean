import Quadruped.Outcome

/-!
A game controller as a source of keys. Buttons win over the hat, the hat over the stick, and on the
stick the longer axis wins. A key is given only when it changes.
-/
namespace Quadruped

open Scalar

structure Snapshot (R : Type) where
  x : R
  y : R
  /-- The hat sideways, left negative. -/
  hat : Int
  buttons : List Bool
deriving DecidableEq, Repr

inductive GamepadCall where
  | init
  | initSticks
  | openStick (index : Int)
  | initStick
  | quitStick
  | quitSticks
  | quit
  | pump
deriving DecidableEq, Repr

def GamepadCall.name : GamepadCall → String
  | init => "init"
  | initSticks => "joystick.init"
  | openStick i => s!"Joystick({i})"
  | initStick => "js.init"
  | quitStick => "js.quit"
  | quitSticks => "joystick.quit"
  | quit => "quit"
  | pump => "pump"

structure Controllers where
  installed : Bool
  count : Int
  hats : Nat
deriving DecidableEq, Repr

structure Gamepad (R : Type) where
  deadzone : R
  index : Int
  opened : Bool
  running : Bool
  lastToken : Option String
deriving DecidableEq, Repr

namespace Gamepad

variable {R : Type} [Scalar R]

def stopToken : String := " "

def exitToken : String := "\x1b"

/-- The key of the first mapped button that is pressed: start, A, Y, B. -/
def buttonToken? (buttons : List Bool) : Option String :=
  if buttons.getD 7 false then some exitToken
  else if buttons.getD 0 false then some stopToken
  else if buttons.getD 3 false then some "r"
  else if buttons.getD 1 false then some "f"
  else none

def hatToken? (hat : Int) : Option String :=
  if hat < 0 then some "q" else if 0 < hat then some "e" else none

def stickToken (x y deadzone : R) : String :=
  if lt (absolute x) deadzone && lt (absolute y) deadzone then stopToken
  else if le (absolute x) (absolute y) then if lt y 0 then "w" else "s"
  else if lt x 0 then "a" else "d"

def token (s : Snapshot R) (deadzone : R) : String :=
  (buttonToken? s.buttons).getD ((hatToken? s.hat).getD (stickToken s.x s.y deadzone))

def create (c : Controllers) (deadzone : R) (index : Int) : Except (Fault R) (Gamepad R) :=
  if c.installed then .ok ⟨deadzone, index, false, false, none⟩ else .error .noGamepadLibrary

/-- A stick that rests gives no key before it first moves. -/
def start (g : Gamepad R) (c : Controllers) (s : Snapshot R) :
    Outcome R (Gamepad R) Unit × List GamepadCall :=
  if g.running then (.ok g () [], [])
  else if c.count ≤ g.index then
    (.fail g .noController [.gamepadStarting, .controllersFound c.count], [.init, .initSticks])
  else
    (.ok { g with opened := true, running := true, lastToken := some stopToken } ()
      [.gamepadStarting, .controllersFound c.count, .controllerSelected "Pad",
        .controllerShape 2 s.buttons.length c.hats],
      [.init, .initSticks, .openStick g.index, .initStick])

def stop (g : Gamepad R) : Gamepad R × List (Note R) × List GamepadCall :=
  ({ g with running := false, opened := false }, [.gamepadStopping],
    (if g.opened then [.quitStick] else []) ++ [.quitSticks, .quit])

def poll (g : Gamepad R) (c : Controllers) (s : Snapshot R) :
    Gamepad R × Option String × List (Note R) × List GamepadCall :=
  if g.running && g.opened then
    let t := token { s with hat := if 0 < c.hats then s.hat else 0 } g.deadzone
    if g.lastToken = some t then (g, none, [], [.pump])
    else ({ g with lastToken := some t }, some t, [.gamepadToken t], [.pump])
  else (g, none, [], [])

end Gamepad
end Quadruped
