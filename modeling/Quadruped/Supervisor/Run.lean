import Quadruped.Rig
import Quadruped.Supervisor.Tick

/-!
A whole run of the supervisor, as a machine that makes one request at a time and goes on with the
reply: connect, stand up, tick until stopped, and at the end a last stop and a disconnect. Between a
request and its reply other tasks may act on the supervisor, and a run may be cancelled at any reply.
-/
namespace Quadruped

inductive Ending (R : Type) where
  | returned
  | raised (why : Fault R)
  | cancelled
deriving DecidableEq, Repr

inductive Request (R : Type) where
  | connect (interface : String)
  | send (c : Command R)
  | sleep (duration : R)
  | disconnect
  | finish (e : Ending R)
deriving DecidableEq, Repr

inductive Run (R : Type) where
  | ready (interface : String)
  | connecting (interface : String)
  /-- A startup posture goes out; so many repetitions of it are still to come. -/
  | rousing (p : Posture) (left : Nat)
  | dwelling (p : Posture) (left : Nat)
  /-- The stop that ends the startup goes out. -/
  | halting
  | sending (choice : Supervisor.Choice R) (keeper : Keeper R)
  /-- The stop that follows a failed tick goes out. -/
  | tripping (keeper : Keeper R)
  | pacing (keeper : Keeper R)
  /-- The last stop goes out. -/
  | parking (e : Ending R)
  | leaving (e : Ending R)
  | over (e : Ending R)
deriving DecidableEq, Repr

namespace Run

variable {R : Type} [Scalar R]

/-- What a run meets as it goes on: the times that it reads off the clock on its way, and whether the
robot is connected. -/
structure Moment (R : Type) where
  /-- When a change to the status is told. -/
  told : Status → R
  /-- When the rate of the ticks sets in. -/
  opened : R
  plan : Instants R
  /-- When the frame of a tick ends. -/
  paced : R
  connected : Bool

def Moment.frozen (now : R) (connected : Bool) : Moment R :=
  ⟨fun _ => now, now, .frozen now, now, connected⟩

omit [Scalar R] in
@[simp] theorem Moment.frozen_connected (now : R) (connected : Bool) :
    (frozen now connected).connected = connected := rfl

structure Progress (R : Type) where
  supervisor : Supervisor R
  run : Run R
  request : Request R
  notes : List (Note R)

def Progress.after (notes : List (Note R)) (p : Progress R) : Progress R :=
  { p with notes := notes ++ p.notes }

variable (m : Moment R)

def finish (s : Supervisor R) (e : Ending R) : Progress R := ⟨s, .over e, .finish e, []⟩

def conclude (s : Supervisor R) (e : Ending R) : Progress R :=
  let (s, notes) := s.transition (m.told .stopped) .stopped
  (finish s e).after notes

/-- The cleanup: the plan is cancelled, and a robot that is connected gets its last stop. -/
def windDown (s : Supervisor R) (e : Ending R) : Progress R :=
  let (s, notes) := s.stop.cancelPlan
  let p := if m.connected then ⟨s, .parking e, .send .stop, []⟩ else conclude m s e
  p.after (.stopping :: notes)

def pace (s : Supervisor R) (k : Keeper R) : Progress R :=
  let (k, remaining, notes) := k.monitor m.paced
  ⟨s, .pacing k, .sleep (Keeper.pause remaining), notes⟩

def settleTick (s : Supervisor R) (choice : Supervisor.Choice R) (k : Keeper R) : Progress R :=
  let (s, notes) := s.settle choice.mode
  (pace m s k).after notes

/-- A tick failed: no plan and no mode from here on, only stops. -/
def trip (s : Supervisor R) (k : Keeper R) (why : Fault R) : Progress R :=
  let (s, cancelled) := s.cancelPlan
  let (s, changed) := { s with mode := s.mode.set .idle }.transition (m.told .failsafe) .failsafe
  ⟨s, .tripping k, .send .stop, .tickFailed why :: .failsafe why :: cancelled ++ changed⟩

/-- One tick up to the point where its command goes out. -/
def beginTick (s : Supervisor R) (k : Keeper R) : Progress R :=
  let o := s.choose m.plan
  match o.result with
  | .error why => (trip m o.state k why).after o.notes
  | .ok choice =>
    let (s, needed) := o.state.wire choice.command
    let p := if needed then ⟨s, .sending choice k, .send choice.command, []⟩
      else settleTick m s choice k
    p.after o.notes

def nextTick (s : Supervisor R) (k : Keeper R) : Progress R :=
  if s.running then beginTick m s k else windDown m s .returned

/-- The robot stands: ticks begin unless the supervisor was stopped meanwhile. -/
def activate (s : Supervisor R) : Progress R :=
  if s.running then
    let (s, notes) := s.transition (m.told .active) .active
    let p := match Keeper.create s.timing.controlPeriod s.timing.lagWarning m.opened with
      | .error why => windDown m s (.raised why)
      | .ok k => nextTick m s k
    p.after notes
  else windDown m s .returned

def startupNote (s : Supervisor R) (p : Posture) : List (Note R) :=
  if 0 < s.timing.startupRepeats then [.startup p s.timing.startupRepeats] else []

def repeatPosture (s : Supervisor R) (p : Posture) (left : Nat) : Progress R :=
  if s.running then ⟨s, .rousing p left, .send (.posture p), []⟩ else windDown m s .returned

def balance (s : Supervisor R) : Nat → Progress R
  | 0 => ⟨s, .halting, .send .stop, []⟩
  | n + 1 => repeatPosture m s .balanceStand n

def stand (s : Supervisor R) : Nat → Progress R
  | 0 => (balance m s s.timing.startupRepeats.toNat).after (startupNote s .balanceStand)
  | n + 1 => repeatPosture m s .standUp n

def rouse (s : Supervisor R) : Progress R :=
  let (s, notes) := s.transition (m.told .starting) .starting
  (stand m s s.timing.startupRepeats.toNat).after (notes ++ startupNote s .standUp)

def begin (s : Supervisor R) (interface : String) : Progress R :=
  ⟨{ s with running := true }, .connecting interface, .connect interface,
    [.starting, .connecting interface]⟩

def resume (s : Supervisor R) : Run R → Reply R → Progress R
  | .ready i, .ok => begin s i
  -- cancelled before it began, or already over
  | .ready _, _ => finish s .cancelled
  | .over e, _ => finish s e
  | .connecting _, .ok => (rouse m s).after [.connected]
  | .connecting i, .refused => (windDown m s .returned).after [.connectionFailed i]
  | .rousing p n, .ok => ⟨s, .dwelling p n, .sleep s.timing.startupInterval, []⟩
  | .dwelling .standUp n, .ok => stand m s n
  | .dwelling _ n, .ok => balance m s n
  | .halting, .ok => (activate m s).after [.startupComplete]
  | .sending choice k, .ok =>
    let (s, notes) := s.record choice.command
    (settleTick m s choice k).after notes
  | .sending _ k, .raised why => trip m s k why
  | .tripping k, .ok => pace m s k
  | .tripping k, .raised why => (pace m s k).after [.failsafeStopFailed why]
  | .pacing k, .ok => nextTick m s k
  | .parking e, .ok => ⟨s, .leaving e, .disconnect, []⟩
  | .parking e, .raised why => (conclude m s e).after [.cleanupFailed why]
  | .leaving e, .ok => conclude m s e
  | .leaving e, .raised why => (conclude m s e).after [.cleanupFailed why]
  | .parking _, _ => finish s .cancelled
  | .leaving _, _ => finish s .cancelled
  | _, .raised why => windDown m s (.raised why)
  | _, _ => windDown m s .cancelled

end Run
end Quadruped
