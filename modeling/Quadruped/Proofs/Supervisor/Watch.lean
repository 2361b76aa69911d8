import Quadruped.Proofs.Supervisor.Turn

/-!
A supervisor on watch: everything that can be done with it, in any order. A tick is taken in two
parts, up to the send of its command and from the reply on, so that anything may happen while a
command is on its way; several ticks may be under way at once.
-/
namespace Quadruped

inductive Deed (R : Type) where
  | call (c : Call R)
  | beginTick (now : Instants R)
  | endTick (index : Nat) (reply : Reply R)
  | fail (m : Run.Moment R) (k : Keeper R) (why : Fault R)
  | windDown (m : Run.Moment R) (e : Ending R)
  | conclude (m : Run.Moment R) (e : Ending R)

structure Watch (R : Type) where
  supervisor : Supervisor R
  /-- The ticks whose command is on its way to the robot. -/
  underWay : List (Supervisor.Choice R)

namespace Watch

variable {R : Type} [Scalar R]

def beginTick (w : Watch R) (now : Instants R) : Watch R :=
  let o := w.supervisor.choose now
  match o.result with
  | .error _ => { w with supervisor := o.state }
  | .ok choice =>
    let (s, needed) := o.state.wire choice.command
    if needed then ⟨s, w.underWay ++ [choice]⟩
    else { w with supervisor := (s.settle choice.mode).1 }

def endTick (w : Watch R) (index : Nat) (reply : Reply R) : Watch R :=
  match w.underWay[index]?, reply with
  | some choice, .ok =>
    ⟨((w.supervisor.record choice.command).1.settle choice.mode).1, w.underWay.eraseIdx index⟩
  | _, _ => { w with underWay := w.underWay.eraseIdx index }

def step (w : Watch R) : Deed R → Watch R
  | .call c => { w with supervisor := w.supervisor.obey c }
  | .beginTick now => w.beginTick now
  | .endTick index reply => w.endTick index reply
  | .fail m k why => { w with supervisor := (Run.trip m w.supervisor k why).supervisor }
  | .windDown m e => { w with supervisor := (Run.windDown m w.supervisor e).supervisor }
  | .conclude m e => { w with supervisor := (Run.conclude m w.supervisor e).supervisor }

def after (w : Watch R) (deeds : List (Deed R)) : Watch R := deeds.foldl step w

@[simp] theorem after_nil (w : Watch R) : w.after [] = w := rfl

@[simp] theorem after_cons (w : Watch R) (d : Deed R) (deeds : List (Deed R)) :
    w.after (d :: deeds) = (w.step d).after deeds := rfl

theorem after_keeps {P : Watch R → Prop} {deeds : List (Deed R)} {w : Watch R} (first : P w)
    (steps : ∀ w, ∀ d ∈ deeds, P w → P (w.step d)) : P (w.after deeds) := by
  induction deeds generalizing w with
  | nil => exact first
  | cons d rest ih =>
    obtain ⟨now, later⟩ := List.forall_mem_cons.mp fun d member w => steps w d member
    exact ih (now w first) fun w d member => later d member w

theorem beginTick_keeps {P : Supervisor R → Prop} (w : Watch R) (now : Instants R)
    (chosen : P (w.supervisor.choose now).state)
    (wired : ∀ (s : Supervisor R) (c : Command R), P s → P (s.wire c).1)
    (settled : ∀ (s : Supervisor R) (m : Mode), P s → P (s.settle m).1) :
    P (w.beginTick now).supervisor := by
  unfold beginTick
  dsimp only
  split
  · exact chosen
  · rename_i choice _
    have sent := wired _ choice.command chosen
    split
    · exact sent
    · exact settled _ choice.mode sent

theorem endTick_keeps {P : Supervisor R → Prop} (w : Watch R) (index : Nat) (reply : Reply R)
    (first : P w.supervisor)
    (recorded : ∀ (s : Supervisor R) (c : Command R), P s → P (s.record c).1)
    (settled : ∀ (s : Supervisor R) (m : Mode), P s → P (s.settle m).1) :
    P (w.endTick index reply).supervisor := by
  unfold endTick
  split
  · exact settled _ _ (recorded _ _ first)
  · exact first

theorem step_lasting {P : Supervisor R → Prop} (lasting : Supervisor.Lasting P) (w : Watch R)
    {d : Deed R} (before : P w.supervisor)
    (obeys : ∀ c, d = .call c → P (w.supervisor.obey c)) : P (w.step d).supervisor := by
  cases d with
  | call c => exact obeys c rfl
  | beginTick now =>
    exact w.beginTick_keeps now (lasting.chooses _ now before) lasting.wires lasting.settles
  | endTick index reply =>
    exact w.endTick_keeps index reply before lasting.records lasting.settles
  | fail m k why => exact lasting.trip m k why before
  | windDown m e => exact lasting.windDown m e before
  | conclude m e => exact lasting.changes _ (m.told .stopped) .stopped before

end Watch
end Quadruped
