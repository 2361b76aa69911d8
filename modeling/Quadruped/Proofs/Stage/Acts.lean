import Quadruped.Proofs.Robot
import Quadruped.Stage

/-!
What can be done with a simulated robot before its audience, and what a single act comes to. A robot
that moves on arrives where its velocity takes it, also when its new heading has no meaning and the
act fails; only an act that does not fail is shown.
-/
namespace Quadruped

open Scalar

variable {R : Type}

/-- An act on a robot, with what its clock shows then. -/
inductive Stage.Act (R : Type) where
  | subscribe
  | connect (interface : String) (now : Simulator.Readings R)
  | disconnect
  | send (c : Command R) (now : Simulator.Readings R)
  | step (dt now : R)

variable [Scalar R]

namespace Simulator

def heading (s : Simulator R) (dt : R) : R := s.yaw + (s.velocity.angular + s.drift) * dt

def displaced (s : Simulator R) (dt : R) : Simulator R :=
  { s with
    x := s.x + (s.velocity.forward * cos s.yaw - s.velocity.lateral * sin s.yaw) * dt
    y := s.y + (s.velocity.forward * sin s.yaw + s.velocity.lateral * cos s.yaw) * dt }

def moved (s : Simulator R) (dt yaw : R) : Simulator R := { s.displaced dt with yaw }

theorem advance_turns {s : Simulator R} {dt yaw : R} {β : Type}
    (turned : Angle.normalize (s.heading dt) = some yaw)
    (next : Simulator R → Unit → Outcome R (Simulator R) β) :
    ((s.advance dt).andThen next).state = (next (s.moved dt yaw) ()).state ∧
      ((s.advance dt).andThen next).result = (next (s.moved dt yaw) ()).result := by
  have moved : (s.advance dt).state = s.moved dt yaw ∧ (s.advance dt).result = .ok () := by
    unfold heading at turned
    unfold advance
    dsimp only
    rw [turned]
    exact ⟨rfl, rfl⟩
  have after := Outcome.andThen_after_ok moved.2 next
  rw [moved.1] at after
  exact after

theorem advance_fails {s : Simulator R} {dt : R} {β : Type}
    (lost : Angle.normalize (s.heading dt) = none)
    (next : Simulator R → Unit → Outcome R (Simulator R) β) :
    ((s.advance dt).andThen next).state = s.displaced dt ∧
      ((s.advance dt).andThen next).result = .error .domain := by
  have stopped : (s.advance dt).state = s.displaced dt ∧ (s.advance dt).result = .error .domain := by
    unfold heading at lost
    unfold advance
    dsimp only
    rw [lost]
    exact ⟨rfl, rfl⟩
  have after := Outcome.andThen_after_error stopped.2 next
  rw [stopped.1] at after
  exact after

/-- How long an act lets the robot move on, if it does: up to the reading of the clock where that has
gone on since it was last kept. -/
def lapse (s : Simulator R) : Stage.Act R → Option R
  | .send _ now => if s.connected then s.lastTime.map fun t => larger 0 (now.moved - t) else none
  | .step dt _ => some dt
  | _ => none

def Clocked (s : Simulator R) : Prop := s.connected = true → s.lastTime.isSome = true

/-- What an act comes to: the robot that it leaves, and the pose that it shows or the failure. -/
inductive Effect (s : Simulator R) :
    Stage.Act R → Simulator R → Except (Fault R) (Option (Pose R)) → Prop where
  | subscribe : Effect s .subscribe s (.ok none)
  | connect (interface : String) (now : Readings R) :
      Effect s (.connect interface now) { s with connected := true, lastTime := some now.moved }
        (.ok (if s.publishOnConnect then some (s.pose now.published) else none))
  | disconnect :
      Effect s .disconnect { s with connected := false, velocity := .zero } (.ok none)
  | drop (c : Command R) (now : Readings R) (apart : s.connected = false) :
      Effect s (.send c now) s (.ok none)
  | take (c : Command R) (now : Readings R) (dt yaw : R) (connected : s.connected = true)
      (lapses : s.lapse (.send c now) = some dt)
      (turned : Angle.normalize (s.heading dt) = some yaw) :
      Effect s (.send c now) ({ s.moved dt yaw with lastTime := some now.moved }.apply c)
        (.ok (some ((s.moved dt yaw).pose now.published)))
  | refuse (c : Command R) (now : Readings R) (dt : R) (connected : s.connected = true)
      (lapses : s.lapse (.send c now) = some dt)
      (lost : Angle.normalize (s.heading dt) = none) :
      Effect s (.send c now) (s.displaced dt) (.error .domain)
  | step (dt now yaw : R) (turned : Angle.normalize (s.heading dt) = some yaw) :
      Effect s (.step dt now) (s.moved dt yaw) (.ok (some ((s.moved dt yaw).pose now)))
  | stall (dt now : R) (lost : Angle.normalize (s.heading dt) = none) :
      Effect s (.step dt now) (s.displaced dt) (.error .domain)

theorem send_effect {s : Simulator R} (clocked : s.Clocked) (c : Command R) (now : Readings R) :
    Effect s (.send c now) (s.send c now).state (s.send c now).result := by
  unfold send
  cases connected : s.connected with
  | false =>
    rw [if_neg (by decide)]
    exact .drop c now connected
  | true =>
    obtain ⟨t, last⟩ := Option.isSome_iff_exists.mp (clocked connected)
    have lapses : s.lapse (.send c now) = some (larger 0 (now.moved - t)) := by
      simp [lapse, connected, last]
    have integrated : s.integrate now.moved =
        (s.advance (larger 0 (now.moved - t))).andThen fun s _ =>
          .ok { s with lastTime := some now.moved } () [] := by
      rw [integrate, last]
    rw [if_pos rfl, integrated, Outcome.andThen_assoc]
    cases turned : Angle.normalize (s.heading (larger 0 (now.moved - t))) with
    | none =>
      rw [(advance_fails turned _).1, (advance_fails turned _).2]
      exact .refuse c now _ connected lapses turned
    | some yaw =>
      rw [(advance_turns turned _).1, (advance_turns turned _).2]
      have taken := Effect.take c now _ yaw connected lapses turned
      cases c <;> exact taken

theorem step_effect (s : Simulator R) (dt now : R) :
    Effect s (.step dt now) (s.step dt now).state (s.step dt now).result := by
  unfold step
  cases turned : Angle.normalize (s.heading dt) with
  | none =>
    rw [(advance_fails turned _).1, (advance_fails turned _).2]
    exact .stall dt now turned
  | some yaw =>
    rw [(advance_turns turned _).1, (advance_turns turned _).2]
    exact .step dt now yaw turned

theorem Effect.clocked {s t : Simulator R} {act : Stage.Act R}
    {result : Except (Fault R) (Option (Pose R))} (effect : Effect s act t result)
    (clocked : s.Clocked) : t.Clocked := by
  cases effect with
  | subscribe | drop | refuse | step | stall => exact clocked
  | connect => exact fun _ => rfl
  | disconnect => exact nofun
  | take c => cases c <;> exact fun _ => rfl

end Simulator

def Audience.told (a : Audience R) : Except (Fault R) (Option (Pose R)) → Audience R
  | .ok p => a.hear p
  | .error _ => a

def Audience.after (a : Audience R) (result : Except (Fault R) (Option (Pose R))) :
    Stage.Act R → Audience R
  | .subscribe => a.subscribe
  | _ => a.told result

namespace Stage

def perform (s : Stage R) : Act R → Outcome R (Stage R) (Option (Pose R))
  | .subscribe => .ok s.subscribe none []
  | .connect interface now => s.connect interface now
  | .disconnect => s.disconnect.andThen fun s _ => .ok s none []
  | .send c now => s.send c now
  | .step dt now => s.step dt now

def after (s : Stage R) (acts : List (Act R)) : Stage R :=
  acts.foldl (fun s act => (s.perform act).state) s

@[simp] theorem after_cons (s : Stage R) (act : Act R) (later : List (Act R)) :
    s.after (act :: later) = (s.perform act).state.after later := rfl

@[simp] theorem after_append (s : Stage R) (first later : List (Act R)) :
    s.after (first ++ later) = (s.after first).after later :=
  List.foldl_append

/-- Every act of a run is done where it meets this condition. -/
def Along (P : Stage R → Act R → Prop) (s : Stage R) : List (Act R) → Prop
  | [] => True
  | act :: later => P s act ∧ (s.perform act).state.Along P later

instance decidableAlong (P : Stage R → Act R → Prop) [∀ s act, Decidable (P s act)] :
    (s : Stage R) → (acts : List (Act R)) → Decidable (s.Along P acts)
  | _, [] => .isTrue trivial
  | s, act :: later =>
    have := decidableAlong P (s.perform act).state later
    inferInstanceAs (Decidable (P s act ∧ _))

theorem along_append {P : Stage R → Act R → Prop} {s : Stage R} {first later : List (Act R)} :
    s.Along P (first ++ later) ↔ s.Along P first ∧ (s.after first).Along P later := by
  induction first generalizing s with
  | nil => exact ⟨fun goes => ⟨trivial, goes⟩, And.right⟩
  | cons act rest ih => exact (and_congr_right fun _ => ih).trans and_assoc.symm

theorem publish_effect (s : Stage R) {act : Act R} {o : Outcome R (Simulator R) (Option (Pose R))}
    (effect : s.simulator.Effect act o.state o.result) :
    s.simulator.Effect act (s.publish o).state.simulator (s.publish o).result ∧
      (s.publish o).state.audience = s.audience.told (s.publish o).result := by
  have parts : (s.publish o).state.simulator = o.state ∧ (s.publish o).result = o.result ∧
      (s.publish o).state.audience = s.audience.told o.result := by
    unfold publish Outcome.andThen
    dsimp only [Outcome.within_result, Outcome.within_state]
    cases o.result with
    | error why => exact ⟨rfl, rfl, rfl⟩
    | ok p => exact ⟨rfl, rfl, rfl⟩
  obtain ⟨robot, result, audience⟩ := parts
  rw [robot, result]
  exact ⟨effect, audience⟩

theorem perform_effect {s : Stage R} (clocked : s.simulator.Clocked) (act : Act R) :
    s.simulator.Effect act (s.perform act).state.simulator (s.perform act).result ∧
      (s.perform act).state.audience = s.audience.after (s.perform act).result act := by
  cases act with
  | subscribe => exact ⟨.subscribe, rfl⟩
  | disconnect => exact ⟨.disconnect, rfl⟩
  | connect interface now => exact ⟨.connect interface now, rfl⟩
  | send c now => exact s.publish_effect (Simulator.send_effect clocked c now)
  | step dt now => exact s.publish_effect (s.simulator.step_effect dt now)

theorem after_clocked {s : Stage R} (clocked : s.simulator.Clocked) (acts : List (Act R)) :
    (s.after acts).simulator.Clocked := by
  induction acts generalizing s with
  | nil => exact clocked
  | cons act later ih => exact ih ((perform_effect clocked act).1.clocked clocked)

end Stage
end Quadruped
