import Quadruped.Rig
import Quadruped.Supervisor.Run
import Quadruped.Teleop.Reader
import Quadruped.Transcript

/-!
A reading session: the key source is started, polled at a fixed period while the supervisor runs, and
stopped at the end, however the session ends.
-/
namespace Quadruped

structure KeySession (R σ : Type) where
  reader : KeyReader σ
  period : R
  opened : Bool
deriving DecidableEq, Repr

abbrev ReadingSession (R : Type) := KeySession R (KeySource R)

namespace KeySession

variable {R σ : Type}

inductive Need (R : Type) where
  | sleep (duration : R)
  | over (e : Ending R)
deriving DecidableEq, Repr

structure Progress (R σ : Type) where
  session : KeySession R σ
  supervisor : Supervisor R
  lines : List (Line R)
  need : Need R

def Progress.after (lines : List (Line R)) (p : Progress R σ) : Progress R σ :=
  { p with lines := lines ++ p.lines }

def ofReader (reader : KeyReader σ) (period : R) : KeySession R σ := ⟨reader, period, false⟩

variable [Equipment R σ]

/-- The source is stopped, once. A stop that fails takes the place of the ending that it followed. -/
def close (r : KeySession R σ) (s : Supervisor R) (e : Ending R) : Progress R σ :=
  let o := Equipment.stop r.reader.source
  ⟨{ r with reader := { r.reader with source := o.state }, opened := false }, s,
    o.notes.map .note, .over (match o.result with
      | .error why => .raised why
      | .ok () => e)⟩

def turn (r : KeySession R σ) (s : Supervisor R) : Progress R σ :=
  if s.running then
    let p := r.reader.poll s
    let r := { r with reader := p.reader }
    let next : Progress R σ := match p.result with
      | .error why => r.close p.supervisor (.raised why)
      | .ok _ => ⟨r, p.supervisor, [], .sleep r.period⟩
    next.after (p.notes.map .note ++ p.printed.map .print)
  else r.close s .returned

/-- The help is printed before anything is in place that would stop the source. -/
def greet (r : KeySession R σ) (s : Supervisor R) : Progress R σ :=
  let o := r.reader.say helpText
  let r := { r with reader := o.state, opened := true }
  let next : Progress R σ := match o.result with
    | .error why => ⟨r, s, [], .over (.raised why)⟩
    | .ok printed => (r.turn s).after (printed.map .print)
  next.after (o.notes.map .note)

def begin (r : KeySession R σ) (s : Supervisor R) : Progress R σ :=
  let o := Equipment.start r.reader.source
  let r := { r with reader := { r.reader with source := o.state } }
  let next : Progress R σ := match o.result with
    | .error why => ⟨r, s, [], .over (.raised why)⟩
    | .ok () => r.greet s
  next.after (o.notes.map .note)

/-- How a session goes on; one that is cancelled before it began leaves the source alone. -/
def resume (r : KeySession R σ) (s : Supervisor R) (reply : Reply R) : Progress R σ :=
  match r.opened, reply with
  | true, .raised why => r.close s (.raised why)
  | true, .cancelled => r.close s .cancelled
  | true, _ => r.turn s
  | false, .ok => r.begin s
  | false, _ => ⟨r, s, [], .over .cancelled⟩

end KeySession
end Quadruped
