import Mathlib.Data.List.Induction
import Quadruped.Proofs.Teleop.Gamepad
import Quadruped.Teleop.Session

/-!
A session that reads a script. As long as nobody else stops the supervisor or selects a mode, what has
come of it is a matter of the entries that it has given: those up to the first exit key, one at each
turn.
-/
namespace Quadruped

variable {R : Type}

namespace Text

theorem lowerRows_above : ∀ row ∈ lowerRows.map ShiftRange.ofRow,
    0x41 ≤ row.first ∧ 0x41 ≤ (row.first : Int) + row.shift := by
  decide +kernel

theorem ofNat_escape {n : Nat} (same : Char.ofNat n = '\x1b') : n = 0x1b := by
  have valid : n.isValidChar := by
    by_contra other
    have null : Char.ofNat n = '\x00' := dif_neg other
    exact absurd (null.symm.trans same) (by decide)
  have whole : Char.ofNatAux n valid = '\x1b' := by
    rw [← same]
    exact (dif_pos valid).symm
  exact congrArg Char.toNat whole

theorem lower_escape_iff (c : Char) : lower [c] = ['\x1b'] ↔ c = '\x1b' := by
  refine ⟨fun small => ?_, fun same => by subst same; decide +kernel⟩
  have at_once : lowerAt [] c [] = ['\x1b'] := by
    simpa [lower, lowerFrom] using small
  unfold lowerAt at at_once
  split at at_once
  · exact absurd at_once (by decide +kernel)
  split at at_once
  · exact absurd at_once (by decide +kernel)
  have image : shifted lowerRows c = '\x1b' := by simpa using at_once
  unfold shifted at image
  split at image
  · rename_i row found
    obtain ⟨first, moved⟩ := lowerRows_above row (List.mem_of_find?_eq_some found)
    have holds := List.find?_some found
    have value := ofNat_escape image
    simp only [ShiftRange.holds, Bool.and_eq_true, decide_eq_true_eq] at holds
    omega
  · exact image

end Text

namespace KeyBinding

theorem folded_escape {key : String} (same : folded key = KeyScript.escapeKey) :
    key = KeyScript.escapeKey := by
  have whole : KeyScript.escapeKey = String.ofList ['\x1b'] := by decide +kernel
  unfold folded at same
  split at same
  · rename_i c single
    rw [whole] at same ⊢
    have small := String.ofList_injective same
    rw [Text.lower_escape_iff] at small
    rw [← String.ofList_toList (s := key), single, small]
  · exact same

theorem lookup_exit_iff (key : String) :
    (lookup key).map (·.action) = some .exit ↔ key = KeyScript.escapeKey := by
  refine ⟨fun exits => ?_, fun same => by subst same; decide +kernel⟩
  have only : ∀ bound ∈ all, bound.2.action = .exit → bound.1 = KeyScript.escapeKey := by decide
  rw [lookup, Option.map_map] at exits
  obtain ⟨bound, found, exit⟩ := Option.map_eq_some_iff.mp exits
  have matched := List.find?_some found
  have key_of := only bound (List.mem_of_find?_eq_some found) exit
  exact folded_escape ((beq_iff_eq.mp matched).symm.trans key_of)

end KeyBinding

namespace KeyScript

def bound (entry : Option String) : Bool := (entry.bind KeyBinding.lookup).isSome

def upToExit : List (Option String) → List (Option String)
  | [] => []
  | entry :: later => if entry = some escapeKey then [entry] else entry :: upToExit later

variable {keys : List (Option String)} {n : Nat}

theorem take_after_exit (exit : some escapeKey ∈ (upToExit keys).take n) :
    (upToExit keys).take (n + 1) = (upToExit keys).take n := by
  induction keys generalizing n with
  | nil => rw [upToExit, List.take_nil, List.take_nil]
  | cons entry later ih =>
    cases n with
    | zero => exact absurd exit List.not_mem_nil
    | succ n =>
      unfold upToExit at exit ⊢
      split
      · rw [List.take_succ_cons, List.take_succ_cons, List.take_nil, List.take_nil]
      · rename_i other
        rw [if_neg other, List.take_succ_cons, List.mem_cons] at exit
        rw [List.take_succ_cons, List.take_succ_cons,
          ih (exit.resolve_left fun same => other same.symm)]

theorem take_before_exit (going : some escapeKey ∉ (upToExit keys).take n) :
    (upToExit keys).take n = keys.take n ∧
      (upToExit keys).take (n + 1) = (upToExit keys).take n ++ keys[n]?.toList := by
  induction keys generalizing n with
  | nil => simp [upToExit]
  | cons entry later ih =>
    cases n with
    | zero =>
      refine ⟨rfl, ?_⟩
      unfold upToExit
      split <;> rfl
    | succ n =>
      unfold upToExit at going ⊢
      split
      · rename_i same
        rw [if_pos same, List.take_succ_cons] at going
        exact absurd (List.mem_cons.mpr (.inl same.symm)) going
      · rename_i other
        rw [if_neg other, List.take_succ_cons, List.mem_cons, not_or] at going
        obtain ⟨same, next⟩ := ih going.2
        rw [List.take_succ_cons, List.take_succ_cons, List.take_succ_cons, same, next, same]
        exact ⟨rfl, rfl⟩

theorem next_entry (going : some escapeKey ∉ (upToExit keys).take n) :
    keys[((upToExit keys).take n).length]? = keys[n]? := by
  rw [(take_before_exit going).1, List.length_take]
  rcases Nat.le_total n keys.length with within | past
  · rw [Nat.min_eq_left within]
  · rw [Nat.min_eq_right past, List.getElem?_eq_none past, List.getElem?_eq_none (Nat.le_refl _)]

theorem entry_of_script {entry : Option String} (given : (upToExit keys)[n]? = some entry) :
    keys[n]? = some entry ∧ some escapeKey ∉ (upToExit keys).take n := by
  have more : n < (upToExit keys).length := (List.getElem?_eq_some_iff.mp given).1
  have going : some escapeKey ∉ (upToExit keys).take n := by
    intro exit
    have lengths := congrArg List.length (take_after_exit exit)
    rw [List.length_take, List.length_take] at lengths
    omega
  refine ⟨?_, going⟩
  have next := (take_before_exit going).2
  rw [List.take_add_one, given, List.append_cancel_left_eq] at next
  cases held : keys[n]? with
  | none => rw [held] at next; cases next
  | some other => rw [held] at next; cases next; rfl

end KeyScript

namespace Supervisor

def press (s : Supervisor R) (entry : Option String) : Supervisor R :=
  match entry.bind KeyBinding.lookup with
  | some b => (KeyReader.act s b.action).1
  | none => s

theorem press_mode (s : Supervisor R) (entry : Option String) :
    (s.press entry).currentMode = (entry.bind KeyBinding.mode?).getD s.currentMode := by
  have bound : entry.bind KeyBinding.mode? =
      (entry.bind KeyBinding.lookup).bind (·.action.mode?) := by cases entry <;> rfl
  rw [bound]
  unfold press
  cases entry.bind KeyBinding.lookup with
  | none => rfl
  | some b =>
    obtain ⟨action, feedback⟩ := b
    cases action with
    | select m =>
      obtain ⟨runner, selected⟩ := s.setMode_only m
      exact congrArg currentMode selected
    | help => rfl
    | exit => rfl

theorem press_running (s : Supervisor R) (entry : Option String) :
    (s.press entry).running = true ↔ s.running = true ∧ entry ≠ some KeyScript.escapeKey := by
  cases entry with
  | none => simp [press]
  | some key =>
    have only := KeyBinding.lookup_exit_iff key
    rw [Ne, Option.some_inj, ← only]
    unfold press
    rw [Option.bind_some]
    cases KeyBinding.lookup key with
    | none => simp
    | some b =>
      obtain ⟨action, feedback⟩ := b
      cases action with
      | select m =>
        obtain ⟨runner, selected⟩ := s.setMode_only m
        simp [KeyReader.act, selected]
      | help => simp [KeyReader.act]
      | exit => simp [KeyReader.act, stop]

end Supervisor

theorem Reader.applyKey_eq [Scalar R] (r : Reader R) (s : Supervisor R) (key : String) :
    (r.applyKey s key).supervisor = s.press (some key) ∧
      (r.applyKey s key).reader =
        { r with events := r.events + [some key].countP KeyScript.bound } := by
  unfold Supervisor.press KeyScript.bound
  rw [Option.bind_some]
  cases found : KeyBinding.lookup key with
  | none =>
    rw [r.applyKey_unbound s found]
    simp [found]
  | some b =>
    have applied := r.applyKey_bound s found
    rw [applied.1, applied.2.1]
    simp [found]

namespace KeySession

variable {σ : Type} [Equipment R σ]

def Progress.next (p : Progress R σ) (found : Supervisor R) (reply : Reply R) : Progress R σ :=
  match p.need with
  | .sleep _ => p.session.resume found reply
  | .over _ => p

def Progress.follow (p : Progress R σ) (found : List (Supervisor R)) : Progress R σ :=
  found.foldl (fun p s => p.next s .ok) p

@[simp] theorem Progress.follow_append (p : Progress R σ) (first later : List (Supervisor R)) :
    p.follow (first ++ later) = (p.follow first).follow later :=
  List.foldl_append

/-- Between two turns nobody but the session stops the supervisor or selects a mode. -/
def Progress.Undisturbed (p : Progress R σ) : List (Supervisor R) → Prop
  | [] => True
  | s :: later => (s.running = p.supervisor.running ∧ s.currentMode = p.supervisor.currentMode) ∧
      (p.next s .ok).Undisturbed later

theorem Progress.undisturbed_append {p : Progress R σ} {first later : List (Supervisor R)} :
    p.Undisturbed (first ++ later) ↔ p.Undisturbed first ∧ (p.follow first).Undisturbed later := by
  induction first generalizing p with
  | nil => exact ⟨fun alone => ⟨trivial, alone⟩, And.right⟩
  | cons s rest ih => exact (and_congr_right fun _ => ih).trans and_assoc.symm

open KeyScript

/-- What has come of the entries that were given: a session that began with this reader and this
supervisor has counted so many events and left such a supervisor. -/
structure Tally (r : Reader R) (s : Supervisor R) (given : List (Option String)) (events : Nat)
    (t : Supervisor R) : Prop where
  counted : events = r.events + given.countP bound
  mode : t.currentMode = (given.filterMap (·.bind KeyBinding.mode?)).getLastD s.currentMode
  running : t.running = true ↔ some escapeKey ∉ given

theorem Tally.press {r : Reader R} {s t found : Supervisor R} {given : List (Option String)}
    {events : Nat} (tally : Tally r s given events t) (kept : found.running = t.running)
    (alone : found.currentMode = t.currentMode) (entry : Option (Option String)) :
    Tally r s (given ++ entry.toList) (events + entry.toList.countP bound)
      (found.press entry.join) := by
  refine ⟨?_, ?_, ?_⟩
  · rw [tally.counted, List.countP_append, Nat.add_assoc]
  · rw [Supervisor.press_mode, alone, tally.mode, List.filterMap_append]
    rcases entry with _ | key
    · simp
    · cases selects : key.bind KeyBinding.mode? with
      | none => simp [selects]
      | some m => simp [selects]
  · rw [Supervisor.press_running, kept, tally.running]
    rcases entry with _ | key
    · simp
    · simp [eq_comm]

theorem Tally.untouched {r : Reader R} {s t found : Supervisor R} {given : List (Option String)}
    {events : Nat} (tally : Tally r s given events t) (kept : found.running = t.running)
    (alone : found.currentMode = t.currentMode) : Tally r s given events found :=
  ⟨tally.counted, alone.trans tally.mode, kept ▸ tally.running⟩

variable [Scalar R]

structure Reads (keys : List (Option String)) (n : Nat) (r : ReadingSession R) : Prop where
  opened : r.opened = true
  source : r.reader.source = .script ⟨keys, n, true⟩

theorem script_poll_eq (keys : List (Option String)) (n : Nat) :
    Equipment.poll (KeySource.script ⟨keys, n, true⟩ : KeySource R) =
      .ok (.script ⟨keys, n + keys[n]?.toList.length, true⟩) keys[n]?.join [] := by
  have polled : (KeySource.script ⟨keys, n, true⟩ : KeySource R).poll =
      (.script ⟨keys, n + keys[n]?.toList.length, true⟩, keys[n]?.join, []) := by
    unfold KeySource.poll KeyScript.poll
    dsimp only
    rw [if_pos rfl]
    cases keys[n]? <;> rfl
  exact congrArg (fun polled : KeySource R × Option String × List (Note R) =>
    (Outcome.ok polled.1 polled.2.1 polled.2.2 : Outcome R (KeySource R) (Option String))) polled

theorem Reads.poll_eq {keys : List (Option String)} {n : Nat} {r : ReadingSession R}
    (reads : r.Reads keys n) (s : Supervisor R) :
    (r.reader.poll s).supervisor = s.press keys[n]?.join ∧
      (r.reader.poll s).reader = { r.reader with
        source := .script ⟨keys, n + keys[n]?.toList.length, true⟩
        events := r.reader.events + keys[n]?.toList.countP bound } := by
  unfold KeyReader.poll
  rw [reads.source, script_poll_eq]
  dsimp only
  cases keys[n]? with
  | none => exact ⟨rfl, rfl⟩
  | some entry =>
    cases entry with
    | none => exact ⟨rfl, rfl⟩
    | some key => exact Reader.applyKey_eq _ s key

theorem turn_running (r : ReadingSession R) {s : Supervisor R} (running : s.running = true) :
    (r.turn s).session = { r with reader := (r.reader.poll s).reader } ∧
      (r.turn s).supervisor = (r.reader.poll s).supervisor ∧
      (r.turn s).need = .sleep r.period := by
  obtain ⟨event, succeeds⟩ := Reader.poll_succeeds r.reader s
  unfold turn
  rw [if_pos running]
  dsimp only
  rw [succeeds]
  exact ⟨rfl, rfl, rfl⟩

theorem turn_eq {keys : List (Option String)} {n : Nat} {r : ReadingSession R}
    (reads : r.Reads keys n) {s : Supervisor R} (running : s.running = true) :
    (r.turn s).supervisor = s.press keys[n]?.join ∧ (r.turn s).need = .sleep r.period ∧
      (r.turn s).session.period = r.period ∧
      (r.turn s).session.Reads keys (n + keys[n]?.toList.length) ∧
      (r.turn s).session.reader.events = r.reader.events + keys[n]?.toList.countP bound := by
  obtain ⟨supervisor, reader⟩ := reads.poll_eq s
  obtain ⟨session, polled, sleeps⟩ := r.turn_running running
  rw [session, polled]
  refine ⟨supervisor, sleeps, rfl, ⟨reads.opened, ?_⟩, ?_⟩
  · exact congrArg (·.source) reader
  · exact congrArg (·.events) reader

theorem turn_closes {keys : List (Option String)} {n : Nat} {r : ReadingSession R}
    (reads : r.Reads keys n) {s : Supervisor R} (stopped : s.running = false) :
    (r.turn s).supervisor = s ∧ (r.turn s).need = .over .returned ∧
      (r.turn s).session.reader.source = .script ⟨keys, n, false⟩ ∧
      (r.turn s).session.reader.events = r.reader.events := by
  unfold turn close
  rw [if_neg (by rw [stopped]; decide), reads.source]
  exact ⟨rfl, rfl, rfl, rfl⟩

/-- A session that began with this reader and this supervisor, after its first turn and `n` more. -/
structure Stands (r : ReadingSession R) (keys : List (Option String)) (s : Supervisor R) (n : Nat)
    (p : Progress R (KeySource R)) : Prop where
  tally : Tally r.reader s ((upToExit keys).take (n + 1)) p.session.reader.events p.supervisor
  stage : some escapeKey ∉ (upToExit keys).take n ∧ p.need = .sleep r.period ∧
      p.session.period = r.period ∧ p.session.Reads keys ((upToExit keys).take (n + 1)).length ∨
    some escapeKey ∈ (upToExit keys).take n ∧ p.need = .over .returned ∧
      p.session.reader.source = .script ⟨keys, ((upToExit keys).take (n + 1)).length, false⟩

theorem turn_stands {r t : ReadingSession R} {keys : List (Option String)} {s u found : Supervisor R}
    {n : Nat} (tally : Tally r.reader s ((upToExit keys).take n) t.reader.events u)
    (reads : t.Reads keys ((upToExit keys).take n).length) (period : t.period = r.period)
    (kept : found.running = u.running) (alone : found.currentMode = u.currentMode)
    (running : u.running = true) :
    r.Stands keys s n (t.turn found) ∧ (t.turn found).supervisor = found.press keys[n]?.join := by
  have going := tally.running.mp running
  obtain ⟨same, next⟩ := take_before_exit going
  obtain ⟨supervisor, need, after, later, events⟩ := turn_eq reads (kept.trans running)
  rw [next_entry going] at supervisor later events
  refine ⟨⟨?_, .inl ⟨going, ?_, ?_, ?_⟩⟩, supervisor⟩
  · rw [next, supervisor, events]
    exact tally.press kept alone _
  · rw [need, period]
  · rw [after, period]
  · rwa [next, List.length_append]

/-- One turn more, with the supervisor that it finds. Until the exit key has been given it applies the
next entry; the turn after that key ends the session. -/
theorem Stands.next {r : ReadingSession R} {keys : List (Option String)} {s found : Supervisor R}
    {n : Nat} {p : Progress R (KeySource R)} (stands : r.Stands keys s n p)
    (kept : found.running = p.supervisor.running)
    (alone : found.currentMode = p.supervisor.currentMode) :
    r.Stands keys s (n + 1) (p.next found .ok) ∧
      (some escapeKey ∉ (upToExit keys).take (n + 1) →
        (p.next found .ok).supervisor = found.press keys[n + 1]?.join) := by
  obtain ⟨tally, stage⟩ := stands
  unfold Progress.next
  rcases stage with ⟨going, need, period, reads⟩ | ⟨exit, need, source⟩
  · have resumed : p.session.resume found .ok = p.session.turn found := by
      unfold resume
      rw [reads.opened]
    rw [need]
    dsimp only
    rw [resumed]
    by_cases exit : some escapeKey ∈ (upToExit keys).take (n + 1)
    · -- the exit key was the last entry applied: this turn finds the supervisor stopped
      have stopped : found.running = false :=
        kept.trans (Bool.eq_false_iff.mpr fun runs => tally.running.mp runs exit)
      obtain ⟨supervisor, ended, closed, events⟩ := turn_closes reads stopped
      have none_left := take_after_exit exit
      refine ⟨⟨?_, .inr ⟨exit, ended, ?_⟩⟩, fun going => absurd exit going⟩
      · rw [supervisor, events, none_left]
        exact tally.untouched kept alone
      · rw [closed, none_left]
    · obtain ⟨next, pressed⟩ :=
        turn_stands tally reads period kept alone (tally.running.mpr exit)
      exact ⟨next, fun _ => pressed⟩
  · have before := take_after_exit exit
    rw [need]
    have exit : some escapeKey ∈ (upToExit keys).take (n + 1) := by rwa [before]
    have none_left := take_after_exit exit
    refine ⟨⟨?_, .inr ⟨exit, need, ?_⟩⟩, fun going => absurd exit going⟩
    · rw [none_left]
      exact tally
    · rw [none_left]
      exact source

theorem begin_turns (r : ReadingSession R) (s : Supervisor R)
    (started : (Equipment.start r.reader.source).result = .ok ()) :
    let source := (Equipment.start r.reader.source).state
    let t : ReadingSession R := { r with reader := { r.reader with source }, opened := true }
    (r.begin s).session = (t.turn s).session ∧ (r.begin s).supervisor = (t.turn s).supervisor ∧
      (r.begin s).need = (t.turn s).need := by
  unfold begin
  dsimp only
  rw [started]
  dsimp only
  unfold greet
  rw [Reader.say_eq]
  exact ⟨rfl, rfl, rfl⟩

theorem begin_stands {r : ReadingSession R} {script : KeyScript} {s : Supervisor R}
    (source : r.reader.source = .script script) (unopened : r.opened = false)
    (running : s.running = true) :
    r.Stands script.keys s 0 (r.resume s .ok) ∧
      (r.resume s .ok).supervisor = s.press script.keys[0]?.join := by
  obtain ⟨⟨from_script, echo, events⟩, period, opened⟩ := r
  cases source
  cases unopened
  let t : ReadingSession R := ⟨⟨.script ⟨script.keys, 0, true⟩, echo, events⟩, period, true⟩
  have reads : t.Reads script.keys 0 := ⟨rfl, rfl⟩
  have empty : Tally ⟨.script script, echo, events⟩ s [] events s :=
    ⟨by simp, by simp, by simp [running]⟩
  obtain ⟨⟨tally, stage⟩, pressed⟩ :=
    turn_stands (r := ⟨⟨.script script, echo, events⟩, period, false⟩) (n := 0) (t := t) empty reads
      rfl rfl rfl running
  let r : ReadingSession R := ⟨⟨.script script, echo, events⟩, period, false⟩
  obtain ⟨session, supervisor, need⟩ := r.begin_turns s rfl
  change Stands r script.keys s 0 (r.begin s) ∧ (r.begin s).supervisor = _
  refine ⟨⟨?_, ?_⟩, supervisor.trans pressed⟩
  · rw [session, supervisor]
    exact tally
  · rw [session, need]
    exact stage

theorem follow_stands {r : ReadingSession R} {script : KeyScript} {s : Supervisor R}
    (source : r.reader.source = .script script) (unopened : r.opened = false)
    (running : s.running = true) {found : List (Supervisor R)}
    (alone : (r.resume s .ok).Undisturbed found) :
    r.Stands script.keys s found.length ((r.resume s .ok).follow found) := by
  induction found using List.reverseRecOn with
  | nil => exact (begin_stands source unopened running).1
  | append_singleton earlier last ih =>
    obtain ⟨before, ⟨kept, same⟩, _⟩ := Progress.undisturbed_append.mp alone
    rw [Progress.follow_append, List.length_append]
    exact ((ih before).next kept same).1

theorem turn_presses {r : ReadingSession R} {script : KeyScript} {s : Supervisor R}
    (source : r.reader.source = .script script) (unopened : r.opened = false)
    (running : s.running = true) {found : List (Supervisor R)}
    (alone : (r.resume s .ok).Undisturbed found) {i : Nat} (turn : i ≤ found.length)
    {entry : Option String} (given : (upToExit script.keys)[i]? = some entry) :
    ∃ met, (s :: found)[i]? = some met ∧
      ((r.resume s .ok).follow (found.take i)).supervisor = met.press entry := by
  obtain ⟨entry_is, going⟩ := entry_of_script given
  cases i with
  | zero =>
    refine ⟨s, rfl, (begin_stands source unopened running).2.trans ?_⟩
    rw [entry_is]
    rfl
  | succ i =>
    have parts : found = found.take i ++ found[i] :: found.drop (i + 1) := by simp
    rw [parts] at alone
    obtain ⟨before, ⟨kept, same⟩, _⟩ := Progress.undisturbed_append.mp alone
    have stands := follow_stands source unopened running before
    rw [List.length_take, Nat.min_eq_left (by omega)] at stands
    refine ⟨found[i], List.getElem?_cons_succ.trans (List.getElem?_eq_getElem turn), ?_⟩
    have pressed := (stands.next kept same).2 going
    rw [entry_is] at pressed
    rw [List.take_succ_eq_append_getElem turn, Progress.follow_append]
    exact pressed

end KeySession

namespace ReadingSession

open KeyScript KeySession

variable [Scalar R]

/-- A session that reads a script and that nobody else stops or switches applies its entries in order,
one at each turn, up to the first exit key, and reads no more. It has counted the bound keys among
them, the mode is that of the last key among them that is bound to one, and the supervisor has been
stopped, and the session ends at its next turn, just where the exit key is among them. -/
theorem session_applies_script_up_to_exit {r : ReadingSession R} {script : KeyScript}
    {s : Supervisor R} (source : r.reader.source = .script script) (unopened : r.opened = false)
    (running : s.running = true) {found : List (Supervisor R)}
    (alone : (r.resume s .ok).Undisturbed found) :
    let after := (r.resume s .ok).follow
    let entries := upToExit script.keys
    let given := entries.take (found.length + 1)
    (∀ i entry, given[i]? = some entry →
      ∃ met, (s :: found)[i]? = some met ∧ (after (found.take i)).supervisor = met.press entry) ∧
    (after found).session.reader.source = .script
      ⟨script.keys, given.length, decide (some escapeKey ∉ entries.take found.length)⟩ ∧
    (after found).session.reader.events = r.reader.events + given.countP bound ∧
    (after found).supervisor.currentMode =
      (given.filterMap (·.bind KeyBinding.mode?)).getLastD s.currentMode ∧
    ((after found).supervisor.running = false ↔ some escapeKey ∈ given) ∧
    (after found).need =
      if some escapeKey ∈ entries.take found.length then .over .returned else .sleep r.period := by
  intro after entries given
  have pressed : ∀ i entry, given[i]? = some entry → ∃ met, (s :: found)[i]? = some met ∧
      (after (found.take i)).supervisor = met.press entry := by
    intro i entry held
    have turn : i < found.length + 1 := by
      have short := (List.getElem?_eq_some_iff.mp held).1
      rw [List.length_take] at short
      omega
    rw [List.getElem?_take_of_lt turn] at held
    exact turn_presses source unopened running alone (Nat.le_of_lt_succ turn) held
  obtain ⟨⟨counted, mode, runs⟩, stage⟩ := follow_stands source unopened running alone
  have stopped : (after found).supervisor.running = false ↔ some escapeKey ∈ given := by
    rw [← Bool.not_eq_true, runs, not_not]
  rcases stage with ⟨going, need, -, reads⟩ | ⟨exit, need, closed⟩
  · refine ⟨pressed, ?_, counted, mode, stopped, ?_⟩
    · rw [decide_eq_true going]
      exact reads.source
    · rw [if_neg going]
      exact need
  · refine ⟨pressed, ?_, counted, mode, stopped, ?_⟩
    · rw [decide_eq_false (not_not.mpr exit)]
      exact closed
    · rw [if_pos exit]
      exact need

/-- A capital letter, a poll without a key, a text without a binding and the exit key, each turn after a
tick; the key behind the exit is not read. -/
theorem key_behind_exit_is_not_read :
    let keys := [some "W", none, some "ww", some escapeKey, some " "]
    let r := ofReader (.ofSource (.script (.ofKeys keys)) false : Reader Float) 0.05
    let s : Supervisor Float := { Supervisor.standard 0 [] with running := true }
    let drives : Supervisor Float := s.press (some "W")
    let found := [{ drives with ticks := 1 }, { drives with ticks := 2 }, { drives with ticks := 3 },
      { drives.stop with ticks := 4 }]
    (r.resume s .ok).Undisturbed found ∧
      ((r.resume s .ok).follow found).session.reader.source = .script ⟨keys, 4, false⟩ ∧
      ((r.resume s .ok).follow found).session.reader.events = 2 ∧
      ((r.resume s .ok).follow found).supervisor.currentMode = .teleop .forward ∧
      ((r.resume s .ok).follow found).supervisor.running = false ∧
      ((r.resume s .ok).follow found).need = .over .returned := by
  intro keys r s drives found
  have alone : (r.resume s .ok).Undisturbed found := by
    refine ⟨?_, ?_, ?_, ?_, trivial⟩ <;> decide +kernel
  have reads : r.reader.source = .script (.ofKeys keys) := rfl
  obtain ⟨-, source, events, mode, stopped, need⟩ :=
    session_applies_script_up_to_exit reads rfl rfl alone
  refine ⟨alone, source.trans ?_, events.trans ?_, mode.trans ?_, stopped.mpr ?_, need.trans ?_⟩
  · decide +kernel
  · decide +kernel
  · decide +kernel
  · decide +kernel
  · decide +kernel

end ReadingSession
end Quadruped
