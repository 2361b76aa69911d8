import Quadruped.Angle
import Quadruped.Audience
import Quadruped.Outcome

/-!
The link to a real robot: a channel with its poses and a client that takes its commands. Any call on
the link may fail.
-/
namespace Quadruped

inductive LinkCall (R : Type) where
  | openChannel (domain : Int) (interface : String)
  | subscribe (topic : String)
  | listen (depth : Nat)
  | makeClient
  | setTimeout (timeout : R)
  | initClient
  | move (v : Velocity R)
  | take (p : Posture)
  | closeChannel
deriving DecidableEq, Repr

def Posture.callName : Posture → String
  | standUp => "StandUp"
  | standDown => "StandDown"
  | balanceStand => "BalanceStand"
  | damp => "Damp"
  | recoveryStand => "RecoveryStand"
  | sit => "Sit"
  | riseSit => "RiseSit"
  | stop => "StopMove"

namespace LinkCall

variable {R : Type}

def name : LinkCall R → String
  | openChannel .. => "ChannelFactoryInitialize"
  | subscribe _ => "ChannelSubscriber"
  | listen _ => "Subscriber.Init"
  | makeClient => "SportClient"
  | setTimeout _ => "SetTimeout"
  | initClient => "Init"
  | move _ => "Move"
  | take p => p.callName
  | closeChannel => "Subscriber.Close"

def ofCommand : Command R → LinkCall R
  | .velocity v => move v
  | .posture p => take p

end LinkCall

structure SportLink (R : Type) where
  timeout : R
  domain : Int
  hasClient : Bool
  hasChannel : Bool
  connected : Bool
  audience : Audience R
  /-- Every call, and whether the link was connected then, oldest first. -/
  trace : List (LinkCall R × Bool)
deriving DecidableEq, Repr

namespace SportLink

variable {R : Type} [Scalar R]

def create (installed : Bool) (timeout : R) (domain : Int) : Except (Fault R) (SportLink R) :=
  if installed then .ok ⟨timeout, domain, false, false, false, ⟨[]⟩, []⟩
  else .error .noSportLibrary

def topic : String := "rt/sportmodestate"

variable (faulty : LinkCall R → Bool)

def call (l : SportLink R) (c : LinkCall R) : Outcome R (SportLink R) Unit :=
  let l := { l with trace := l.trace ++ [(c, l.connected)] }
  if faulty c then .fail l (.callFailed c.name) [] else .ok l () []

/-- The channel first, then the client. What was made before a call failed stays. -/
def openLink (l : SportLink R) (interface : String) : Outcome R (SportLink R) Unit :=
  ((((((l.call faulty (.openChannel l.domain interface)).andThen fun l _ =>
    l.call faulty (.subscribe topic)).andThen fun l _ =>
    { l with hasChannel := true }.call faulty (.listen 10)).andThen fun l _ =>
    l.call faulty .makeClient).andThen fun l _ =>
    { l with hasClient := true }.call faulty (.setTimeout l.timeout)).andThen fun l _ =>
    l.call faulty .initClient)

def connect (l : SportLink R) (interface : String) : SportLink R × Bool × List (Note R) :=
  let o := l.openLink faulty interface
  match o.result with
  | .error why => (o.state, false, [.linkFailed interface why])
  | .ok () => ({ o.state with connected := true }, true, [])

/-- A call on the client; without one it is dropped. -/
def onClient (l : SportLink R) (c : LinkCall R) : Outcome R (SportLink R) Unit :=
  if l.hasClient then l.call faulty c else .ok l () [.callDropped c.name]

def send (l : SportLink R) (c : Command R) : Outcome R (SportLink R) Unit :=
  l.onClient faulty (.ofCommand c)

def halt (l : SportLink R) : Outcome R (SportLink R) Unit :=
  if l.hasClient && l.connected then l.onClient faulty (.take .stop) else .ok l () []

def closeChannel (l : SportLink R) : Outcome R (SportLink R) Unit :=
  if l.hasChannel then
    (l.call faulty .closeChannel).andThen fun l _ => .ok { l with hasChannel := false } () []
  else .ok l () []

def disconnect (l : SportLink R) : Outcome R (SportLink R) Unit :=
  ((l.halt faulty).andThen fun l _ => l.closeChannel faulty).andThen fun l _ =>
    .ok { l with connected := false } () []

/-- The pose in a message: three coordinates, and the third of three angles. -/
def poseOf (position angles : List R) (now : R) : Except (Fault R) (Pose R) :=
  match position, angles with
  | x :: y :: z :: _, _ :: _ :: yaw :: _ =>
    match Angle.normalize yaw with
    | some h => .ok ⟨x, y, z, h, now⟩
    | none => .error .domain
  | _, _ => .error .shortReading

def receive (l : SportLink R) (position angles : List R) (now : R) :
    Outcome R (SportLink R) Unit :=
  match poseOf position angles now with
  | .ok p => .ok { l with audience := l.audience.hear (some p) } () []
  | .error why => .fail l why []

end SportLink
end Quadruped
