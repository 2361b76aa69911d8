import Quadruped.Proofs.Supervisor.ModeRace
import Quadruped.Teleop.Reader

/-!
A controller gives a key exactly when its controls stand for another key than at the poll before, so
none is lost and none is given twice. A reader that applies these keys keeps the supervisor in the
mode of the key that the controls stand for now, until that key is the exit.
-/
namespace Quadruped

variable {R : Type}

namespace Gamepad

/-- The key that the controls stand for; a controller without a hat has it at rest. -/
def asked [Scalar R] (c : Controllers) (deadzone : R) (s : Snapshot R) : String :=
  token { s with hat := if 0 < c.hats then s.hat else 0 } deadzone

def keys [Scalar R] (c : Controllers) : Gamepad R → List (Snapshot R) → List (Option String)
  | _, [] => []
  | g, s :: later => (g.poll c s).2.1 :: keys c (g.poll c s).1 later

def change (before now : String) : Option String := if now = before then none else some now

structure Follows (g : Gamepad R) (last : String) : Prop where
  running : g.running = true
  opened : g.opened = true
  lastToken : g.lastToken = some last

theorem start_eq {g : Gamepad R} {c : Controllers} (closed : g.running = false)
    (present : g.index < c.count) (s : Snapshot R) :
    (g.start c s).1.result = .ok () ∧
      (g.start c s).1.state =
        { g with opened := true, running := true, lastToken := some stopToken } := by
  have found : ¬c.count ≤ g.index := by omega
  simp [start, closed, found]

theorem start_follows {g : Gamepad R} {c : Controllers} (closed : g.running = false)
    (present : g.index < c.count) (s : Snapshot R) :
    (g.start c s).1.state.Follows stopToken := by
  rw [(start_eq closed present s).2]
  exact ⟨rfl, rfl, rfl⟩

theorem Follows.poll_eq [Scalar R] {g : Gamepad R} {last : String} (follows : g.Follows last)
    (c : Controllers) (s : Snapshot R) :
    (g.poll c s).1 = { g with lastToken := some (asked c g.deadzone s) } ∧
      (g.poll c s).2.1 = change last (asked c g.deadzone s) := by
  have polled : (g.running && g.opened) = true := by rw [follows.running, follows.opened]; rfl
  unfold poll change
  rw [if_pos polled, follows.lastToken]
  by_cases same : asked c g.deadzone s = last
  · have held : some last = some (token { s with hat := if 0 < c.hats then s.hat else 0 }
        g.deadzone) := congrArg some same.symm
    rw [if_pos same]
    dsimp only
    rw [if_pos held, same, ← follows.lastToken]
    exact ⟨rfl, rfl⟩
  · have moved : ¬some last = some (token { s with hat := if 0 < c.hats then s.hat else 0 }
        g.deadzone) := fun held => same (Option.some.inj held).symm
    rw [if_neg same]
    dsimp only
    rw [if_neg moved]
    exact ⟨rfl, rfl⟩

theorem Follows.poll_follows [Scalar R] {g : Gamepad R} {last : String} (follows : g.Follows last)
    (c : Controllers) (s : Snapshot R) :
    (g.poll c s).1.Follows (asked c g.deadzone s) := by
  rw [(follows.poll_eq c s).1]
  exact ⟨follows.running, follows.opened, rfl⟩

theorem Follows.keys_eq [Scalar R] {g : Gamepad R} {last : String} (follows : g.Follows last)
    (c : Controllers) (shots : List (Snapshot R)) :
    keys c g shots = List.zipWith change (last :: shots.map (asked c g.deadzone))
      (shots.map (asked c g.deadzone)) := by
  induction shots generalizing g last with
  | nil => rfl
  | cons s later ih =>
    have rest := ih (follows.poll_follows c s)
    obtain ⟨state, key⟩ := follows.poll_eq c s
    rw [state] at rest
    rw [keys, key, state, rest]
    rfl

def vocabulary : List String := [exitToken, stopToken, "r", "f", "q", "e", "w", "s", "a", "d"]

theorem token_mem_vocabulary [Scalar R] (s : Snapshot R) (deadzone : R) :
    token s deadzone ∈ vocabulary := by
  have button : ∀ t, buttonToken? s.buttons = some t → t ∈ vocabulary := by
    grind [buttonToken?, vocabulary]
  have hat : ∀ t, hatToken? s.hat = some t → t ∈ vocabulary := by
    grind [hatToken?, vocabulary]
  have stick : stickToken s.x s.y deadzone ∈ vocabulary := by
    unfold stickToken
    repeat' split
    all_goals simp [vocabulary]
  unfold token
  cases pressed : buttonToken? s.buttons with
  | some t => exact button t pressed
  | none =>
    cases pushed : hatToken? s.hat with
    | some t => exact hat t pushed
    | none => exact stick

end Gamepad

namespace KeyBinding

def mode? (key : String) : Option Mode := (lookup key).bind (·.action.mode?)

theorem mode_of_vocabulary : ∀ key ∈ Gamepad.vocabulary, key ≠ Gamepad.exitToken →
    (mode? key).any (·.kind ≠ .autonomous) = true := by
  decide +kernel

theorem mode_of_stop : mode? Gamepad.stopToken = some .idle := by decide +kernel

theorem lookup_of_mode {key : String} {m : Mode} (bound : mode? key = some m) :
    ∃ feedback, lookup key = some ⟨.select m, feedback⟩ := by
  obtain ⟨⟨action, feedback⟩, found, selects⟩ := Option.bind_eq_some_iff.mp bound
  cases action with
  | select other => cases selects; exact ⟨feedback, found⟩
  | help => cases selects
  | exit => cases selects

end KeyBinding

namespace Reader

open Gamepad

section
variable [Scalar R]

theorem say_eq (r : Reader R) (text : String) :
    r.say text = .ok r (if r.echo then [text] else []) [] := by
  unfold KeyReader.say
  split <;> rfl

theorem applyKey_unbound (r : Reader R) (s : Supervisor R) {key : String}
    (unknown : KeyBinding.lookup key = none) :
    r.applyKey s key = ⟨r, s, .ok none, [], [.keyIgnored key]⟩ := by
  unfold KeyReader.applyKey
  rw [unknown]

theorem applyKey_bound (r : Reader R) (s : Supervisor R) {key : String} {b : KeyBinding}
    (found : KeyBinding.lookup key = some b) :
    (r.applyKey s key).supervisor = (KeyReader.act s b.action).1 ∧
      (r.applyKey s key).reader = { r with events := r.events + 1 } ∧
      (r.applyKey s key).result = .ok (some ⟨key, b⟩) := by
  unfold KeyReader.applyKey
  rw [found]
  dsimp only
  rw [say_eq]
  exact ⟨rfl, rfl, rfl⟩

theorem poll_succeeds (r : Reader R) (s : Supervisor R) :
    ∃ event, (r.poll s).result = .ok event := by
  have polled : ∃ source key notes, Equipment.poll r.source = .ok source key notes := ⟨_, _, _, rfl⟩
  obtain ⟨source, key, notes, polled⟩ := polled
  unfold KeyReader.poll
  rw [polled]
  cases key with
  | none => exact ⟨none, rfl⟩
  | some key =>
    cases found : KeyBinding.lookup key with
    | none => exact ⟨none, congrArg (·.result) (applyKey_unbound { r with source } s found)⟩
    | some b => exact ⟨_, (applyKey_bound { r with source } s found).2.2⟩

theorem applyKey_selects (r : Reader R) (s : Supervisor R) {key : String} {m : Mode}
    (bound : KeyBinding.mode? key = some m) :
    (r.applyKey s key).supervisor.currentMode = m ∧ (r.applyKey s key).reader.source = r.source := by
  obtain ⟨feedback, found⟩ := KeyBinding.lookup_of_mode bound
  obtain ⟨runner, selected⟩ := s.setMode_only m
  obtain ⟨supervisor, reader, _⟩ := r.applyKey_bound s found
  rw [supervisor, reader]
  exact ⟨congrArg Supervisor.currentMode selected, rfl⟩

end

/-- What happens up to the end of the next poll: what others do to the supervisor, and the controls
that the poll finds. -/
structure Round (R : Type) where
  meanwhile : Supervisor R → Supervisor R
  shown : Snapshot R

variable [Scalar R]

def facing (r : Reader R) (shown : Snapshot R) : Reader R :=
  match r.source with
  | .gamepad g c _ => { r with source := .gamepad g c shown }
  | _ => r

def follow : Reader R → Supervisor R → List (Round R) → Reader R × Supervisor R
  | r, s, [] => (r, s)
  | r, s, next :: later =>
    let p := (r.facing next.shown).poll (next.meanwhile s)
    follow p.reader p.supervisor later

/-- A started controller is the source, and the supervisor is in the mode of the last key, where no
plan can take the mode away. -/
def Steered (c : Controllers) (deadzone : R) (last : String) (r : Reader R) (s : Supervisor R) :
    Prop :=
  ∃ g shown, r.source = .gamepad g c shown ∧ g.Follows last ∧ g.deadzone = deadzone ∧
    KeyBinding.mode? last = some s.currentMode ∧ s.currentMode.kind ≠ .autonomous

theorem Steered.poll {c : Controllers} {deadzone : R} {last : String} {r : Reader R}
    {s : Supervisor R} (steered : Steered c deadzone last r s) {shown : Snapshot R}
    (goes : asked c deadzone shown ≠ exitToken) :
    Steered c deadzone (asked c deadzone shown) ((r.facing shown).poll s).reader
      ((r.facing shown).poll s).supervisor := by
  obtain ⟨g, before, source, follows, rfl, inMode, manual⟩ := steered
  obtain ⟨state, key⟩ := follows.poll_eq c shown
  have faced : r.facing shown = { r with source := .gamepad g c shown } := by
    rw [facing, source]
  have polled : Equipment.poll (KeySource.gamepad g c shown) =
      .ok (.gamepad (g.poll c shown).1 c shown) (g.poll c shown).2.1 (g.poll c shown).2.2.1 := rfl
  have after : (g.poll c shown).1.Follows (asked c g.deadzone shown) :=
    follows.poll_follows c shown
  have kept : (g.poll c shown).1.deadzone = g.deadzone := by rw [state]
  rw [faced]
  unfold KeyReader.poll
  dsimp only
  rw [polled, key]
  by_cases same : asked c g.deadzone shown = last
  · -- no key: the mode is still that of the key before
    rw [change, if_pos same]
    exact ⟨_, shown, rfl, after, kept, same ▸ inMode, manual⟩
  · rw [change, if_neg same]
    obtain ⟨m, bound, plain⟩ := (Option.any_eq_true _ _).mp
      (KeyBinding.mode_of_vocabulary _ (token_mem_vocabulary _ _) goes)
    obtain ⟨mode, kept_source⟩ := applyKey_selects
      { r with source := .gamepad (g.poll c shown).1 c shown } s bound
    refine ⟨(g.poll c shown).1, shown, kept_source, after, kept, ?_, ?_⟩
    · exact bound.trans (congrArg some mode.symm)
    · exact mode.symm ▸ of_decide_eq_true plain

theorem Steered.follow {c : Controllers} {deadzone : R} {last : String} {r : Reader R}
    {s : Supervisor R} (steered : Steered c deadzone last r s) {rounds : List (Round R)}
    (alone : ∀ round ∈ rounds, ∀ s : Supervisor R, s.currentMode.kind ≠ .autonomous →
      (round.meanwhile s).currentMode = s.currentMode)
    (goes : ∀ round ∈ rounds, asked c deadzone round.shown ≠ exitToken) :
    Steered c deadzone ((rounds.map fun round => asked c deadzone round.shown).getLastD last)
      (r.follow s rounds).1 (r.follow s rounds).2 := by
  induction rounds generalizing last r s with
  | nil => exact steered
  | cons next later ih =>
    have waited : Steered c deadzone last r (next.meanwhile s) := by
      obtain ⟨g, before, source, follows, same, inMode, manual⟩ := steered
      have kept := alone next List.mem_cons_self s manual
      exact ⟨g, before, source, follows, same, kept.symm ▸ inMode, kept.symm ▸ manual⟩
    have polled := waited.poll (goes next List.mem_cons_self)
    rw [List.map_cons, List.getLastD_cons]
    exact ih polled (fun round member => alone round (List.mem_cons_of_mem _ member))
      fun round member => goes round (List.mem_cons_of_mem _ member)

end Reader

open Gamepad in
/-- From its start on a controller gives exactly the changes, the key for stop counted as the one
before the first poll, and a reader that alone selects modes keeps the supervisor in the mode of the
key that the controls stood for last. -/
theorem Gamepad.controls_select_mode [Scalar R] {g : Gamepad R} {c : Controllers}
    (closed : g.running = false) (present : g.index < c.count) (first : Snapshot R) :
    (g.start c first).1.result = .ok () ∧
      (∀ shots : List (Snapshot R), keys c (g.start c first).1.state shots =
        List.zipWith change (stopToken :: shots.map (asked c g.deadzone))
          (shots.map (asked c g.deadzone))) ∧
      ∀ (r : Reader R) (s : Supervisor R) (rounds : List (Reader.Round R)),
        r.source = (KeySource.gamepad g c first).start.state → s.currentMode = .idle →
        (∀ round ∈ rounds, ∀ s : Supervisor R, s.currentMode.kind ≠ .autonomous →
          (round.meanwhile s).currentMode = s.currentMode) →
        (∀ round ∈ rounds, asked c g.deadzone round.shown ≠ exitToken) →
        KeyBinding.mode?
            ((rounds.map fun round => asked c g.deadzone round.shown).getLastD stopToken) =
          some (r.follow s rounds).2.currentMode := by
  obtain ⟨succeeds, state⟩ := start_eq closed present first
  have follows := start_follows closed present first
  have deadzone : (g.start c first).1.state.deadzone = g.deadzone := by rw [state]
  refine ⟨succeeds, ?_, ?_⟩
  · intro shots
    rw [follows.keys_eq, deadzone]
  · intro r s rounds source idle alone goes
    have steered : Reader.Steered c g.deadzone stopToken r s := by
      refine ⟨_, first, source, follows, deadzone, ?_⟩
      rw [idle]
      exact ⟨KeyBinding.mode_of_stop, by decide⟩
    obtain ⟨_, _, _, _, _, inMode, _⟩ := steered.follow alone goes
    exact inMode

theorem Gamepad.stick_released :
    let g : Gamepad Float := ⟨0.3, 0, false, false, none⟩
    let c : Controllers := ⟨true, 1, 0⟩
    let rest : Snapshot Float := ⟨0, 0, 0, []⟩
    let rounds : List (Reader.Round Float) :=
      [⟨fun s => (s.settle s.currentMode).1, ⟨0.1, -0.9, 0, []⟩⟩,
        ⟨fun s => (s.settle s.currentMode).1, rest⟩]
    let r : Reader Float := .ofSource (KeySource.gamepad g c rest).start.state false
    Gamepad.keys c (g.start c rest).1.state [rest, ⟨0.1, -0.9, 0, []⟩, rest] =
        [none, some "w", some " "] ∧
      (r.follow (Supervisor.standard 0 []) rounds).2.currentMode = .idle := by
  intro g c rest rounds r
  obtain ⟨_, keys, mode⟩ := Gamepad.controls_select_mode (g := g) (c := c) rfl (by decide) rest
  refine ⟨?_, ?_⟩
  · rw [keys]
    decide +kernel
  · have ticked : ∀ s : Supervisor Float, s.currentMode.kind ≠ .autonomous →
        (s.settle s.currentMode).1.currentMode = s.currentMode := by
      intro s manual
      rw [Supervisor.settle_mode, if_neg fun ended => manual ended.2.1]
    have alone : ∀ round ∈ rounds, ∀ s : Supervisor Float, s.currentMode.kind ≠ .autonomous →
        (round.meanwhile s).currentMode = s.currentMode :=
      List.forall_mem_cons.mpr ⟨ticked, List.forall_mem_singleton.mpr ticked⟩
    have goes : ∀ round ∈ rounds, Gamepad.asked c g.deadzone round.shown ≠ Gamepad.exitToken :=
      List.forall_mem_cons.mpr ⟨by decide +kernel, List.forall_mem_singleton.mpr (by decide +kernel)⟩
    have bound := mode r (Supervisor.standard 0 []) rounds rfl rfl alone goes
    have idle : KeyBinding.mode? ((rounds.map fun round =>
        Gamepad.asked c g.deadzone round.shown).getLastD Gamepad.stopToken) = some .idle := by
      decide +kernel
    exact Option.some.inj (bound.symm.trans idle)

end Quadruped
