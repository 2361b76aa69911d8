import Quadruped.Proofs.Stage.Acts
import Quadruped.Proofs.Wrapping

/-!
The books of a simulated robot. What it has taken and what it keeps of that follow from the acts alone,
each act shows the pose that it is to show, and every listener has heard what was shown since it
subscribed.
-/
namespace Quadruped

open Scalar

variable {R : Type}

def Command.posture? : Command R → Option Posture
  | .posture p => some p
  | .velocity _ => none

namespace Stage

/-- What the acts alone tell of a robot: whether it is connected, the reading of its clock that it
keeps, and the commands that it has taken, oldest first. -/
structure Account (R : Type) where
  linked : Bool
  clock : Option R
  taken : List (Command R)

namespace Account

def opening : Account R := ⟨false, none, []⟩

def enter (a : Account R) : Act R → Account R
  | .connect _ now => { a with linked := true, clock := some now.moved }
  | .disconnect => { a with linked := false }
  | .send c now =>
    if a.linked then { a with clock := some now.moved, taken := a.taken ++ [c] } else a
  | _ => a

def ofActs (acts : List (Act R)) : Account R := acts.foldl enter opening

def posture (a : Account R) : Option Posture := a.taken.reverse.findSome? Command.posture?

theorem posture_snoc (a : Account R) (c : Command R) :
    posture { a with taken := a.taken ++ [c] } = c.posture?.or a.posture := by
  simp only [posture, List.reverse_append, List.reverse_singleton, List.singleton_append,
    List.findSome?_cons]
  cases c <;> rfl

structure Matches (a : Account R) (setup : Simulator.Setup R) (s : Simulator R) : Prop where
  connected : s.connected = a.linked
  lastTime : s.lastTime = a.clock
  history : s.history = (History.empty setup.historySize.toNat).pushAll a.taken
  commandCount : s.commandCount = a.taken.length
  posture : s.posture = a.posture
  publishOnConnect : s.publishOnConnect = setup.publishOnConnect

theorem Matches.commands {a : Account R} {setup : Simulator.Setup R} {s : Simulator R}
    (known : a.Matches setup s) :
    s.commandCount = a.taken.length ∧ (∃ older, a.taken = older ++ s.commands) ∧
      s.commands.length = min s.commandCount setup.historySize.toNat := by
  rw [Simulator.commands, known.history, known.commandCount]
  exact ⟨rfl, History.pushAll_newest _ a.taken⟩

variable [Scalar R]

theorem Matches.enter {a : Account R} {setup : Simulator.Setup R} {s t : Simulator R} {act : Act R}
    {p : Option (Pose R)} (known : a.Matches setup s) (effect : s.Effect act t (.ok p)) :
    (a.enter act).Matches setup t := by
  cases effect with
  | subscribe => exact known
  | connect interface now => exact { known with connected := rfl, lastTime := rfl }
  | disconnect => exact { known with connected := rfl }
  | step => exact { known with }
  | drop c now apart =>
    have unlinked : a.linked = false := known.connected.symm.trans apart
    rw [Account.enter, unlinked, if_neg (by decide)]
    exact known
  | take c now dt yaw connected lapses turned =>
    have linked : a.linked = true := known.connected.symm.trans connected
    have history : s.history.push c =
        (History.empty setup.historySize.toNat).pushAll (a.taken ++ [c]) := by
      rw [History.pushAll_snoc, ← known.history]
    have count : s.commandCount + 1 = (a.taken ++ [c]).length := by
      rw [List.length_append, known.commandCount, List.length_singleton]
    rw [Account.enter, linked, if_pos rfl]
    refine {
      connected := by cases c <;> exact connected
      lastTime := by cases c <;> rfl
      history := by cases c <;> exact history
      commandCount := by cases c <;> exact count
      posture := ?_
      publishOnConnect := by cases c <;> exact known.publishOnConnect }
    refine Eq.trans ?_ (a.posture_snoc c).symm
    cases c with
    | velocity v => exact known.posture
    | posture p => rfl

end Account

variable [Scalar R]

/-- The pose that an act is to show: a connect shows where the robot stands if it is set up to, a
command that is taken where it has come to at that instant, and a step where it has come to by it. -/
def Shows (publishes : Bool) (a : Account R) (s : Simulator R) : Act R → Option (Pose R) → Prop
  | .connect _ now, p => p = if publishes then some (s.pose now.published) else none
  | .send _ now, p =>
    if a.linked then
      ∃ t yaw, a.clock = some t ∧
        Angle.normalize (s.heading (larger 0 (now.moved - t))) = some yaw ∧
          p = some ((s.moved (larger 0 (now.moved - t)) yaw).pose now.published)
    else p = none
  | .step dt now, p =>
    ∃ yaw, Angle.normalize (s.heading dt) = some yaw ∧ p = some ((s.moved dt yaw).pose now)
  | _, p => p = none

theorem effect_shows {a : Account R} {setup : Simulator.Setup R} {s t : Simulator R} {act : Act R}
    {p : Option (Pose R)} (known : a.Matches setup s) (effect : s.Effect act t (.ok p)) :
    Shows setup.publishOnConnect a s act p := by
  cases effect with
  | subscribe | disconnect => rfl
  | connect interface now => exact known.publishOnConnect ▸ rfl
  | step dt now yaw turned => exact ⟨yaw, turned, rfl⟩
  | drop c now apart =>
    have unlinked : a.linked = false := known.connected.symm.trans apart
    rw [Shows, unlinked, if_neg (by decide)]
  | take c now dt yaw connected lapses turned =>
    have linked : a.linked = true := known.connected.symm.trans connected
    rw [Simulator.lapse, if_pos connected, known.lastTime] at lapses
    obtain ⟨t, last, rfl⟩ := Option.map_eq_some_iff.mp lapses
    rw [Shows, linked, if_pos rfl]
    exact ⟨t, yaw, last, turned, rfl⟩

theorem send_apart {s : Stage R} (apart : s.simulator.connected = false) (c : Command R)
    (now : Simulator.Readings R) : (s.perform (.send c now)).state = s := by
  have dropped : s.simulator.send c now =
      .ok s.simulator none [Simulator.droppedNote c] := by
    rw [Simulator.send, if_neg (by simp [apart])]
  change (s.publish (s.simulator.send c now)).state = s
  rw [dropped]
  rfl

def showings (s : Stage R) : List (Act R) → List (Pose R)
  | [] => []
  | act :: later =>
    (s.perform act).result.toOption.join.toList ++ (s.perform act).state.showings later

omit [Scalar R] in
theorem after_received {a : Audience R} {i : Nat} {heard : List (Pose R)}
    (listens : a.received[i]? = some heard) (result : Except (Fault R) (Option (Pose R)))
    {act : Act R} (shown : act = .subscribe → result = .ok none) :
    (a.after result act).received[i]? = some (result.toOption.join.toList ++ heard) := by
  have told : (a.told result).received[i]? = some (result.toOption.join.toList ++ heard) := by
    cases result with
    | error why => exact listens
    | ok p =>
      cases p with
      | none => exact listens
      | some pose => simp [Audience.told, Audience.hear, listens, Except.toOption]
  cases act with
  | subscribe =>
    obtain ⟨inside, _⟩ := List.getElem?_eq_some_iff.mp listens
    rw [shown rfl]
    simp [Audience.after, Audience.subscribe, List.getElem?_append_left inside, listens,
      Except.toOption]
  | connect | disconnect | send | step => exact told

theorem perform_received {s : Stage R} (clocked : s.simulator.Clocked) {i : Nat}
    {heard : List (Pose R)} (listens : s.audience.received[i]? = some heard) (act : Act R) :
    (s.perform act).state.audience.received[i]? =
      some ((s.perform act).result.toOption.join.toList ++ heard) := by
  rw [(perform_effect clocked act).2]
  exact after_received listens _ fun subscribes => subscribes ▸ rfl

theorem after_hears {s : Stage R} (clocked : s.simulator.Clocked) {i : Nat}
    {heard : List (Pose R)} (listens : s.audience.received[i]? = some heard)
    (acts : List (Act R)) :
    (s.after acts).audience.received[i]? = some ((s.showings acts).reverse ++ heard) := by
  induction acts generalizing s heard with
  | nil => exact listens
  | cons act later ih =>
    have next := ih ((perform_effect clocked act).1.clocked clocked)
      (perform_received clocked listens act)
    have single : ∀ o : Option (Pose R), o.toList.reverse = o.toList := by
      intro o
      cases o <;> rfl
    rw [after_cons, next, showings, List.reverse_append, single, List.append_assoc]

/-- The heading that the robot comes to, before it is wrapped, stays within the range of numbers. -/
def Steady (s : Stage R) (act : Act R) : Prop :=
  ∀ dt ∈ s.simulator.lapse act, finite (s.simulator.heading dt) = true

instance (s : Stage R) (act : Act R) : Decidable (s.Steady act) := by
  unfold Steady
  infer_instance

section
variable {setup : Simulator.Setup Float} {a : Account Float} {s : Stage Float}

structure Kept (setup : Simulator.Setup Float) (a : Account Float) (s : Stage Float) : Prop where
  known : a.Matches setup s.simulator
  clocked : s.simulator.Clocked
  yaw : Angle.Wrapped s.simulator.yaw
  heard : ∀ heard ∈ s.audience.received, ∀ p ∈ heard, Angle.Wrapped p.yaw

theorem effect_wrapped {s t : Simulator Float} {act : Act Float}
    {result : Except (Fault Float) (Option (Pose Float))} (effect : s.Effect act t result)
    (yaw : Angle.Wrapped s.yaw)
    (steady : ∀ dt ∈ s.lapse act, Number.isFinite (s.heading dt) = true) :
    Angle.Wrapped t.yaw ∧ ∃ p, result = .ok p ∧ ∀ q, p = some q → Angle.Wrapped q.yaw := by
  have faces {dt w : Float} (finite : Number.isFinite (s.heading dt) = true)
      (turned : Angle.normalize (s.heading dt) = some w) : Angle.Wrapped w := by
    obtain ⟨v, wrapped, inside⟩ := Angle.normalize_wrapped finite
    rw [turned] at wrapped
    exact Option.some.inj wrapped ▸ inside
  have never {dt : Float} (finite : Number.isFinite (s.heading dt) = true)
      (lost : Angle.normalize (s.heading dt) = none) : False := by
    obtain ⟨v, wrapped, _⟩ := Angle.normalize_wrapped finite
    rw [lost] at wrapped
    cases wrapped
  cases effect with
  | subscribe | disconnect | drop => exact ⟨yaw, none, rfl, nofun⟩
  | connect interface now =>
    refine ⟨yaw, _, rfl, ?_⟩
    intro q shown
    split at shown
    · cases shown
      exact yaw
    · cases shown
  | take c now dt w connected lapses turned =>
    have wrapped := faces (steady dt lapses) turned
    refine ⟨?_, _, rfl, ?_⟩
    · cases c <;> exact wrapped
    · rintro q ⟨⟩
      exact wrapped
  | step dt now w turned =>
    have wrapped := faces (steady dt rfl) turned
    refine ⟨wrapped, _, rfl, ?_⟩
    rintro q ⟨⟩
    exact wrapped
  | refuse c now dt connected lapses lost => exact (never (steady dt lapses) lost).elim
  | stall dt now lost => exact (never (steady dt rfl) lost).elim

theorem Kept.perform (kept : Kept setup a s) {act : Act Float} (steady : s.Steady act) :
    Kept setup (a.enter act) (s.perform act).state ∧
      ∃ p, (s.perform act).result = .ok p ∧
        Shows setup.publishOnConnect a s.simulator act p := by
  obtain ⟨effect, audience⟩ := perform_effect kept.clocked act
  obtain ⟨yaw, p, result, shown⟩ := effect_wrapped effect kept.yaw steady
  rw [result] at effect audience
  refine ⟨⟨kept.known.enter effect, effect.clocked kept.clocked, yaw, ?_⟩, p, result,
    effect_shows kept.known effect⟩
  rw [audience]
  cases act with
  | subscribe =>
    intro heard member
    rcases List.mem_append.mp member with old | new
    · exact kept.heard heard old
    · rw [List.mem_singleton.mp new]
      exact nofun
  | connect | disconnect | send | step =>
    cases p with
    | none => exact kept.heard
    | some q =>
      intro heard member
      obtain ⟨before, old, rfl⟩ := List.mem_map.mp member
      exact List.forall_mem_cons.mpr ⟨shown q rfl, kept.heard before old⟩

theorem Kept.after (kept : Kept setup a s) {acts : List (Act Float)} (steady : s.Along Steady acts) :
    Kept setup (acts.foldl Account.enter a) (s.after acts) := by
  induction acts generalizing a s with
  | nil => exact kept
  | cons act later ih => exact ih (kept.perform steady.1).1 steady.2

theorem create_kept (size : 0 ≤ setup.historySize)
    (finite : Number.isFinite setup.start.yaw = true) :
    ∃ robot, Simulator.create setup = .ok robot ∧ Kept setup .opening (ofSimulator robot) := by
  obtain ⟨yaw, turned, wrapped⟩ := Angle.normalize_wrapped finite
  unfold Simulator.create
  rw [turned]
  dsimp only
  rw [if_neg (by omega)]
  exact ⟨_, rfl, ⟨rfl, rfl, rfl, rfl, rfl, rfl⟩, nofun, wrapped, nofun⟩

end

structure Audited (setup : Simulator.Setup Float) (start : Stage Float) (acts : List (Act Float)) :
    Prop where
  count : (start.after acts).simulator.commandCount = (Account.ofActs acts).taken.length
  newest : ∃ older,
    (Account.ofActs acts).taken = older ++ (start.after acts).simulator.commands
  bounded : (start.after acts).simulator.commands.length =
    min (start.after acts).simulator.commandCount setup.historySize.toNat
  posture : (start.after acts).simulator.posture = (Account.ofActs acts).posture
  shows : ∀ first act later, acts = first ++ act :: later →
    ∃ p, ((start.after first).perform act).result = .ok p ∧
      Shows setup.publishOnConnect (Account.ofActs first) (start.after first).simulator act p
  drops : ∀ first c now later, acts = first ++ .send c now :: later →
    (Account.ofActs first).linked = false →
      ((start.after first).perform (.send c now)).state = start.after first
  hears : ∀ first later, acts = first ++ .subscribe :: later →
    (start.after acts).audience.received[(start.after first).audience.received.length]? =
      some ((start.after (first ++ [.subscribe])).showings later).reverse
  wrapped : ∀ heard ∈ (start.after acts).audience.received, ∀ p ∈ heard, Angle.Wrapped p.yaw

/-- A robot with a finite heading, whose history has room for no less than nothing, is accounted for by
the acts that it has gone through, as long as its heading stays within the range of numbers. -/
theorem acts_account_for_robot {setup : Simulator.Setup Float} (size : 0 ≤ setup.historySize)
    (finite : Number.isFinite setup.start.yaw = true) :
    ∃ robot, Simulator.create setup = .ok robot ∧
      ∀ acts, (ofSimulator robot).Along Steady acts → Audited setup (ofSimulator robot) acts := by
  obtain ⟨robot, made, opened⟩ := create_kept size finite
  refine ⟨robot, made, fun acts steady => ?_⟩
  have kept := opened.after steady
  obtain ⟨count, newest, bounded⟩ := kept.known.commands
  refine ⟨count, newest, bounded, kept.known.posture, ?_, ?_, ?_, kept.heard⟩
  · rintro first act later rfl
    obtain ⟨early, now, _⟩ := along_append.mp steady
    exact ((opened.after early).perform now).2
  · rintro first c now later rfl unlinked
    have early := opened.after (along_append.mp steady).1
    exact send_apart (early.known.connected.trans unlinked) c now
  · rintro first later rfl
    have early := opened.after (along_append.mp steady).1
    have enters : ((ofSimulator robot).after (first ++ [.subscribe])).audience.received[
        ((ofSimulator robot).after first).audience.received.length]? = some [] := by
      rw [after_append]
      exact List.getElem?_concat_length
    have heard := after_hears
      (after_clocked opened.clocked (first ++ [.subscribe])) enters later
    rw [List.append_nil] at heard
    rw [← heard, ← after_append, List.append_assoc]
    rfl

theorem newest_of_three_are_kept :
    let setup : Simulator.Setup Float := { Simulator.Setup.standard with historySize := 2 }
    let acts : List (Act Float) := [.send .stop ⟨0, 0.25⟩, .connect "sim" ⟨0.25, 0.5⟩, .subscribe,
      .send (.velocity ⟨1, 0, 0.5⟩) ⟨1, 1.5⟩, .send (.posture .sit) ⟨3, 3⟩, .step 0.5 3,
      .send .stop ⟨4, 4⟩]
    ∃ robot, Simulator.create setup = .ok robot ∧
      ((ofSimulator robot).after acts).simulator.commandCount = 3 ∧
      ((ofSimulator robot).after acts).simulator.commands.length = 2 ∧
      ((ofSimulator robot).after acts).simulator.posture = some .stop ∧
      ∃ heard, ((ofSimulator robot).after acts).audience.received[0]? = some heard ∧
        heard.length = 4 := by
  intro setup acts
  have finite : Number.isFinite setup.start.yaw = true := by decide +kernel
  obtain ⟨robot, made, audit⟩ := acts_account_for_robot (by decide) finite
  have same : robot = { Simulator.standard with history := .empty 2 } := by
    have heading : Angle.normalize setup.start.yaw = some 0 := by decide +kernel
    rw [Simulator.create, heading] at made
    exact (Except.ok.inj made).symm
  obtain rfl := same
  have audited := audit acts (by decide +kernel)
  have count : (Account.ofActs acts).taken.length = 3 := by decide +kernel
  refine ⟨_, made, audited.count.trans count, ?_, audited.posture.trans (by decide +kernel),
    _, audited.hears [.send .stop ⟨0, 0.25⟩, .connect "sim" ⟨0.25, 0.5⟩] _ rfl, by decide +kernel⟩
  rw [audited.bounded, audited.count, count]
  rfl

end Stage
end Quadruped
