import Quadruped.Proofs.Teleop.Script

/-!
However a reading session ends, the source that it started is stopped once, by its last call, and a
keyboard gives the terminal back with the attributes that it found.

The calls are counted in a log beside the equipment. The log changes nothing: the session with it is
the session without it (`KeySession.live_unlogged`).
-/
namespace Quadruped

variable {R σ : Type}

inductive Usage where
  | start
  | poll
  | print (text : String)
  | stop
deriving DecidableEq, Repr

namespace Equipment

variable [Equipment R σ]

def after (gear : σ) : Usage → σ
  | .start => (start gear).state
  | .poll => (poll gear).state
  | .print text => (print text gear).state
  | .stop => (stop gear).state

def replay (gear : σ) (calls : List Usage) : σ := calls.foldl after gear

@[simp] theorem replay_append (gear : σ) (first later : List Usage) :
    replay gear (first ++ later) = replay (replay gear first) later :=
  List.foldl_append

@[simp] theorem replay_one (gear : σ) (call : Usage) : replay gear [call] = after gear call := rfl

/-- What holds of equipment as long as it is only polled and printed on. -/
structure Keeps (P : σ → Prop) : Prop where
  poll : ∀ gear, P gear → P (Equipment.poll gear).state
  print : ∀ text gear, P gear → P (Equipment.print text gear).state

end Equipment

/-- Equipment with the calls that were made to it, whether they failed or not. -/
structure Logged (σ : Type) where
  gear : σ
  calls : List Usage
deriving DecidableEq, Repr

namespace Logged

def fresh (gear : σ) : Logged σ := ⟨gear, []⟩

def note {α : Type} (x : Logged σ) (call : Usage) (o : Outcome R σ α) : Outcome R (Logged σ) α :=
  o.within fun gear => ⟨gear, x.calls ++ [call]⟩

end Logged

instance [Equipment R σ] : Equipment R (Logged σ) where
  start x := x.note .start (Equipment.start x.gear)
  poll x := x.note .poll (Equipment.poll x.gear)
  print text x := x.note (.print text) (Equipment.print text x.gear)
  stop x := x.note .stop (Equipment.stop x.gear)

namespace Logged

def Unreleased (x : Logged σ) : Prop := .stop ∉ x.calls

theorem Unreleased.log {x : Logged σ} (unreleased : x.Unreleased) (call : Usage)
    (other : call ≠ .stop) (gear : σ) : (⟨gear, x.calls ++ [call]⟩ : Logged σ).Unreleased := by
  intro released
  rcases List.mem_append.mp released with earlier | last
  · exact unreleased earlier
  · exact other (List.mem_singleton.mp last).symm

theorem keeps_unreleased [Equipment R σ] : Equipment.Keeps (Unreleased (σ := σ)) where
  poll _ unreleased := unreleased.log .poll nofun _
  print text _ unreleased := unreleased.log (.print text) nofun _

end Logged

namespace KeyReader

variable [Equipment R σ] {P : σ → Prop}

theorem say_keeps (keeps : Equipment.Keeps P) {r : KeyReader σ} (holds : P r.source)
    (text : String) : P (r.say text).state.source := by
  unfold say
  split
  · exact Outcome.andThen_keeps (fun r : KeyReader σ => P r.source) (keeps.print text _ holds)
      fun _ => keeps.print text _ holds
  · exact holds

theorem say_fails {r : KeyReader σ} {text : String} {why : Fault R}
    (failed : (r.say text).result = .error why) :
    (Equipment.print text r.source).result = .error why ∧
      (r.say text).state.source = (Equipment.print text r.source).state := by
  unfold say at failed ⊢
  split at failed
  · rename_i echo
    obtain ⟨printing, left⟩ := Outcome.andThen_fails (fun _ _ => ⟨_, rfl⟩) failed
    rw [if_pos echo, left]
    exact ⟨printing, rfl⟩
  · cases failed

theorem applyKey_keeps (keeps : Equipment.Keeps P) {r : KeyReader σ} (holds : P r.source)
    (s : Supervisor R) (key : String) : P (r.applyKey s key).reader.source := by
  unfold applyKey
  split
  · exact holds
  · rename_i b _
    have told := say_keeps keeps holds (lineOf b)
    dsimp only
    split
    · exact told
    · exact told

theorem poll_keeps (keeps : Equipment.Keeps P) {r : KeyReader σ} (holds : P r.source)
    (s : Supervisor R) : P (r.poll s).reader.source := by
  have polled := keeps.poll _ holds
  unfold poll
  dsimp only
  split
  · exact polled
  · exact polled
  · exact applyKey_keeps keeps polled s _

def unlogged (r : KeyReader (Logged σ)) : KeyReader σ := ⟨r.source.gear, r.echo, r.events⟩

def Poll.unlogged (p : Poll R (Logged σ)) : Poll R σ :=
  ⟨p.reader.unlogged, p.supervisor, p.result, p.printed, p.notes⟩

theorem say_unlogged (r : KeyReader (Logged σ)) (text : String) :
    r.unlogged.say text = (r.say text).within unlogged := by
  obtain ⟨⟨gear, calls⟩, echo, events⟩ := r
  cases echo with
  | false => rfl
  | true =>
    simp only [say, unlogged, if_true, Equipment.print, Logged.note, Outcome.within,
      Outcome.andThen]
    cases (Equipment.print text gear).result with
    | error why => rfl
    | ok _ => rfl

theorem applyKey_unlogged (r : KeyReader (Logged σ)) (s : Supervisor R) (key : String) :
    r.unlogged.applyKey s key = (r.applyKey s key).unlogged := by
  unfold applyKey
  cases KeyBinding.lookup key with
  | none => rfl
  | some b =>
    dsimp only
    rw [say_unlogged, Outcome.within_result]
    cases (r.say (lineOf b)).result with
    | error why => rfl
    | ok printed => rfl

theorem poll_unlogged (r : KeyReader (Logged σ)) (s : Supervisor R) :
    r.unlogged.poll s = (r.poll s).unlogged := by
  have polled : (Equipment.poll r.source).result = (Equipment.poll r.unlogged.source).result := rfl
  unfold poll
  dsimp only
  rw [polled]
  cases (Equipment.poll r.unlogged.source).result with
  | error why => rfl
  | ok key =>
    cases key with
    | none => rfl
    | some key =>
      have applied := applyKey_unlogged { r with source := (Equipment.poll r.source).state } s key
      exact congrArg
        (fun p : Poll R σ => ({ p with notes := (Equipment.poll r.source.gear).notes ++ p.notes } :
          Poll R σ)) applied

end KeyReader

namespace KeySession

variable [Equipment R σ] {P : σ → Prop}

def Progress.live (p : Progress R σ) (life : List (Supervisor R × Reply R)) : Progress R σ :=
  life.foldl (fun p found => p.next found.1 found.2) p

theorem Progress.live_over {p : Progress R σ} {ending : Ending R} (ended : p.need = .over ending)
    (life : List (Supervisor R × Reply R)) : p.live life = p := by
  induction life with
  | nil => rfl
  | cons found later ih =>
    have stays : p.next found.1 found.2 = p := by rw [Progress.next, ended]
    rw [Progress.live, List.foldl_cons, stays]
    exact ih

structure Holds (P : σ → Prop) (r : KeySession R σ) : Prop where
  opened : r.opened = true
  kept : P r.reader.source

/-- While a session sleeps it holds its source; when it is over it has stopped it. -/
def Progress.Tidy (P : σ → Prop) (p : Progress R σ) : Prop :=
  match p.need with
  | .sleep _ => p.session.Holds P
  | .over _ => ∃ last, P last ∧ p.session.reader.source = (Equipment.stop last).state

theorem Holds.turn (keeps : Equipment.Keeps P) {r : KeySession R σ} (holds : r.Holds P)
    (s : Supervisor R) : (r.turn s).Tidy P := by
  have polled := KeyReader.poll_keeps keeps holds.kept s
  unfold KeySession.turn
  split
  · dsimp only
    split
    · exact ⟨_, polled, rfl⟩
    · exact ⟨holds.opened, polled⟩
  · exact ⟨_, holds.kept, rfl⟩

theorem Holds.resume (keeps : Equipment.Keeps P) {r : KeySession R σ} (holds : r.Holds P)
    (s : Supervisor R) (reply : Reply R) : (r.resume s reply).Tidy P := by
  unfold KeySession.resume
  rw [holds.opened]
  cases reply with
  | ok => exact holds.turn keeps s
  | refused => exact holds.turn keeps s
  | raised why => exact ⟨_, holds.kept, rfl⟩
  | cancelled => exact ⟨_, holds.kept, rfl⟩

theorem Progress.Tidy.next (keeps : Equipment.Keeps P) {p : Progress R σ} (tidy : p.Tidy P)
    (found : Supervisor R) (reply : Reply R) : (p.next found reply).Tidy P := by
  unfold Progress.next
  split
  · rename_i asleep
    rw [Progress.Tidy, asleep] at tidy
    exact tidy.resume keeps found reply
  · exact tidy

theorem Progress.Tidy.live (keeps : Equipment.Keeps P) {p : Progress R σ} (tidy : p.Tidy P)
    (life : List (Supervisor R × Reply R)) : (p.live life).Tidy P := by
  induction life generalizing p with
  | nil => exact tidy
  | cons found later ih => exact ih (tidy.next keeps found.1 found.2)

theorem resume_fresh {r : KeySession R σ} (unopened : r.opened = false) (s : Supervisor R) :
    r.resume s .ok = r.begin s := by
  unfold resume
  rw [unopened]

theorem begin_refused {r : KeySession R σ} {why : Fault R}
    (refused : (Equipment.start r.reader.source).result = .error why) (s : Supervisor R) :
    (r.begin s).session.reader.source = (Equipment.start r.reader.source).state ∧
      (r.begin s).need = .over (.raised why) := by
  unfold begin
  dsimp only
  rw [refused]
  exact ⟨rfl, rfl⟩

theorem begin_tidy (keeps : Equipment.Keeps P) {r : KeySession R σ}
    (started : (Equipment.start r.reader.source).result = .ok ())
    (kept : P (Equipment.start r.reader.source).state) (s : Supervisor R) :
    let source := (Equipment.start r.reader.source).state
    (r.begin s).Tidy P ∨ ∃ why, (Equipment.print helpText source).result = .error why ∧
      (r.begin s).need = .over (.raised why) ∧
      (r.begin s).session.reader.source = (Equipment.print helpText source).state := by
  have told := KeyReader.say_keeps keeps
    (r := { r.reader with source := (Equipment.start r.reader.source).state }) kept helpText
  unfold begin greet
  dsimp only
  rw [started]
  dsimp only
  split
  · rename_i why said
    obtain ⟨failed, left⟩ := KeyReader.say_fails said
    exact .inr ⟨why, failed, rfl, left⟩
  · have holds : Holds P ({ r with reader := _, opened := true } : KeySession R σ) := ⟨rfl, told⟩
    exact .inl (holds.turn keeps s)

def unlogged (r : KeySession R (Logged σ)) : KeySession R σ :=
  ⟨r.reader.unlogged, r.period, r.opened⟩

def Progress.unlogged (p : Progress R (Logged σ)) : Progress R σ :=
  ⟨p.session.unlogged, p.supervisor, p.lines, p.need⟩

def logged (r : KeySession R σ) : KeySession R (Logged σ) :=
  ⟨⟨.fresh r.reader.source, r.reader.echo, r.reader.events⟩, r.period, r.opened⟩

theorem turn_unlogged (r : KeySession R (Logged σ)) (s : Supervisor R) :
    r.unlogged.turn s = (r.turn s).unlogged := by
  have polled : r.unlogged.reader.poll s = (r.reader.poll s).unlogged := r.reader.poll_unlogged s
  unfold turn
  rw [polled]
  split
  · dsimp only [KeyReader.Poll.unlogged]
    split
    · rfl
    · rfl
  · rfl

theorem greet_unlogged (r : KeySession R (Logged σ)) (s : Supervisor R) :
    r.unlogged.greet s = (r.greet s).unlogged := by
  have told : r.unlogged.reader.say helpText =
      (r.reader.say helpText).within KeyReader.unlogged := r.reader.say_unlogged helpText
  unfold greet
  rw [told]
  dsimp only
  rw [Outcome.within_result]
  split
  · rfl
  · have turned := turn_unlogged
      { r with reader := (r.reader.say helpText).state, opened := true } s
    exact congrArg (fun p : Progress R σ =>
      (p.after _).after ((r.reader.say helpText).notes.map .note)) turned

theorem begin_unlogged (r : KeySession R (Logged σ)) (s : Supervisor R) :
    r.unlogged.begin s = (r.begin s).unlogged := by
  have started : (Equipment.start r.unlogged.reader.source).result =
      (Equipment.start r.reader.source).result := rfl
  unfold begin
  dsimp only
  rw [started]
  split
  · rfl
  · have greeted := greet_unlogged
      { r with reader := { r.reader with source := (Equipment.start r.reader.source).state } } s
    exact congrArg (·.after ((Equipment.start r.reader.source).notes.map .note)) greeted

theorem resume_unlogged (r : KeySession R (Logged σ)) (s : Supervisor R) (reply : Reply R) :
    r.unlogged.resume s reply = (r.resume s reply).unlogged := by
  have same : r.unlogged.opened = r.opened := rfl
  unfold resume
  rw [same]
  cases r.opened with
  | true =>
    cases reply with
    | ok => exact r.turn_unlogged s
    | refused => exact r.turn_unlogged s
    | raised why => rfl
    | cancelled => rfl
  | false =>
    cases reply with
    | ok => exact r.begin_unlogged s
    | _ => rfl

theorem next_unlogged (p : Progress R (Logged σ)) (found : Supervisor R) (reply : Reply R) :
    p.unlogged.next found reply = (p.next found reply).unlogged := by
  have same : p.unlogged.need = p.need := rfl
  unfold Progress.next
  rw [same]
  cases p.need with
  | sleep duration => exact p.session.resume_unlogged found reply
  | «over» ending => rfl

theorem live_unlogged (p : Progress R (Logged σ)) (life : List (Supervisor R × Reply R)) :
    p.unlogged.live life = (p.live life).unlogged := by
  induction life generalizing p with
  | nil => rfl
  | cons found later ih =>
    rw [Progress.live, List.foldl_cons, next_unlogged]
    exact ih (p.next found.1 found.2)

end KeySession

namespace KeySource

theorem start_fails {t : Terminal} {why : Fault R}
    (failed : (keyboard .closed t : KeySource R).start.result = .error why) :
    (keyboard .closed t : KeySource R).start.state = .keyboard .closed t := by
  obtain ⟨interactive, attributes, pending⟩ := t
  cases interactive with
  | false => rfl
  | true => cases failed

variable [Scalar R]

/-- A keyboard that has left the attributes of this terminal alone, or knows what they were. -/
inductive Lends (t : Terminal) : KeySource R → Prop where
  | closed (pending : List Nat) : Lends t (.keyboard .closed { t with pending })
  | lent (attributes : Attributes) (pending : List Nat) :
      Lends t (.keyboard ⟨some t.attributes, true⟩ { t with attributes, pending })

theorem Lends.stop {t : Terminal} {source : KeySource R} (lends : source.Lends t) :
    ∃ pending, Equipment.after source .stop = .keyboard .closed { t with pending } := by
  cases lends with
  | closed pending => exact ⟨pending, rfl⟩
  | lent attributes pending => exact ⟨pending, rfl⟩

theorem Lends.poll {t : Terminal} {source : KeySource R} (lends : source.Lends t) :
    (Equipment.after source .poll).Lends t := by
  cases lends with
  | closed pending => exact .closed pending
  | lent attributes pending =>
    cases pending with
    | nil => exact .lent attributes []
    | cons byte rest => exact .lent attributes rest

theorem Lends.start {t : Terminal} {source : KeySource R} (lends : source.Lends t) :
    (Equipment.after source .start).Lends t := by
  cases lends with
  | lent attributes pending => exact .lent attributes pending
  | closed pending =>
    obtain ⟨interactive, attributes, waiting⟩ := t
    cases interactive with
    | false => exact .closed pending
    | true => exact .lent _ pending

theorem Lends.after {t : Terminal} {source : KeySource R} (lends : source.Lends t) (call : Usage) :
    (Equipment.after source call).Lends t := by
  cases call with
  | start => exact lends.start
  | poll => exact lends.poll
  | print text => exact lends
  | stop =>
    obtain ⟨pending, stopped⟩ := lends.stop
    rw [stopped]
    exact .closed pending

theorem Lends.replay {t : Terminal} {source : KeySource R} (lends : source.Lends t)
    (calls : List Usage) : (Equipment.replay source calls).Lends t := by
  induction calls generalizing source with
  | nil => exact lends
  | cons call later ih => exact ih (lends.after call)

theorem replay_stop (t : Terminal) (calls : List Usage) :
    ∃ pending, Equipment.replay (.keyboard .closed t : KeySource R) (calls ++ [.stop]) =
      .keyboard .closed { t with pending } := by
  have lends : (keyboard .closed t : KeySource R).Lends t := .closed t.pending
  rw [Equipment.replay_append, Equipment.replay_one]
  exact (lends.replay calls).stop

end KeySource

namespace ReadingSession

open KeySession

variable [Scalar R]

theorem keyboard_restored {r : ReadingSession R} {t : Terminal} {s : Supervisor R}
    {life : List (Supervisor R × Reply R)} {ending : Ending R}
    (source : r.reader.source = .keyboard .closed t) (unopened : r.opened = false)
    (ended : ((r.resume s .ok).live life).need = .over ending) :
    ∃ pending, ((r.resume s .ok).live life).session.reader.source =
      .keyboard .closed { t with pending } := by
  have keeps : Equipment.Keeps fun source : KeySource R => source.Lends t :=
    ⟨fun _ lends => lends.poll, fun _ _ lends => lends⟩
  have lends : (Equipment.start r.reader.source).state.Lends t := by
    rw [source]
    exact (KeySource.Lends.closed t.pending).start
  rw [resume_fresh unopened] at ended ⊢
  cases started : (Equipment.start r.reader.source).result with
  | error why =>
    have refused := begin_refused started s
    rw [source] at started refused
    refine ⟨t.pending, ?_⟩
    rw [Progress.live_over refused.2, refused.1]
    exact KeySource.start_fails started
  | ok _ =>
    rcases begin_tidy keeps started lends s with tidy | ⟨why, unprinted, _⟩
    · have tidy := tidy.live keeps life
      rw [Progress.Tidy, ended] at tidy
      obtain ⟨last, lends, stopped⟩ := tidy
      obtain ⟨pending, restored⟩ := lends.stop
      exact ⟨pending, stopped.trans restored⟩
    · cases unprinted

/-- A session that has started its source, however it ends, has stopped it once, by its last call, and
not before; only if the help could not be printed to begin with has it not. The log that tells is
beside the session and changes nothing. A keyboard restores the terminal by its last stop, whatever
starts and stops came before, and so does a session that reads from one. -/
theorem started_source_is_stopped_once [Equipment R σ] :
    (∀ (r : KeySession R σ) (s : Supervisor R) (life : List (Supervisor R × Reply R)),
      r.opened = false → (Equipment.start r.reader.source).result = .ok () →
      let p := (r.logged.resume s .ok).live life
      let calls := p.session.reader.source.calls
      p.unlogged = (r.resume s .ok).live life ∧
      (∀ pause, p.need = .sleep pause → .stop ∉ calls) ∧
      ∀ ending, p.need = .over ending →
        (∃ before, calls = before ++ [.stop] ∧ .stop ∉ before) ∨
          calls = [.start, .print helpText] ∧
            ∃ why, (Equipment.print helpText (Equipment.start r.reader.source).state).result =
              .error why) ∧
    (∀ (t : Terminal) (calls : List Usage), ∃ pending,
      Equipment.replay (.keyboard .closed t : KeySource R) (calls ++ [.stop]) =
        .keyboard .closed { t with pending }) ∧
    ∀ (r : ReadingSession R) (t : Terminal) (s : Supervisor R)
      (life : List (Supervisor R × Reply R)) (ending : Ending R),
      r.reader.source = .keyboard .closed t → r.opened = false →
      ((r.resume s .ok).live life).need = .over ending →
      ∃ pending, ((r.resume s .ok).live life).session.reader.source =
        .keyboard .closed { t with pending } := by
  refine ⟨fun r s life unopened started => ?_, KeySource.replay_stop,
    fun r t s life ending => keyboard_restored⟩
  intro p calls
  have unlogged : p.unlogged = (r.resume s .ok).live life :=
    (live_unlogged _ life).symm.trans
      (congrArg (fun p : Progress R σ => p.live life) (r.logged.resume_unlogged s .ok).symm)
  have begins : r.logged.resume s .ok = r.logged.begin s :=
    resume_fresh (r := r.logged) unopened s
  have keeps := Logged.keeps_unreleased (R := R) (σ := σ)
  have none : (Logged.fresh r.reader.source).Unreleased := List.not_mem_nil
  have fresh := none.log .start nofun (Equipment.start r.reader.source).state
  refine ⟨unlogged, ?_⟩
  rcases begin_tidy (r := r.logged) keeps started fresh s with tidy | ⟨why, unprinted, ended, left⟩
  · have tidy : p.Tidy Logged.Unreleased := (begins ▸ tidy).live keeps life
    refine ⟨fun pause asleep => ?_, fun ending ended => .inl ?_⟩
    · rw [Progress.Tidy, asleep] at tidy
      exact tidy.kept
    · rw [Progress.Tidy, ended] at tidy
      obtain ⟨last, unreleased, stopped⟩ := tidy
      exact ⟨last.calls, congrArg Logged.calls stopped, unreleased⟩
  · have stays : p = r.logged.begin s := by
      rw [← begins] at ended ⊢
      exact Progress.live_over ended life
    rw [stays]
    refine ⟨fun pause asleep => ?_, fun _ _ => .inr ⟨?_, why, unprinted⟩⟩
    · rw [ended] at asleep
      cases asleep
    · dsimp only [calls]
      rw [stays]
      exact congrArg Logged.calls left

structure Fading where
  left : Nat
deriving DecidableEq, Repr

instance : Equipment Float Fading where
  start gear := .ok gear () []
  poll gear :=
    if gear.left = 0 then .fail gear .noController [] else .ok ⟨gear.left - 1⟩ (some "w") []
  print _ gear := .ok gear () []
  stop gear := .ok gear () []

/-- A controller that gives one key and then fails, the same session cancelled before that, and a
terminal at which `w` and the exit key have been pressed. -/
theorem interrupted_sessions_stop_their_source :
    let r : KeySession Float Fading := .ofReader (.ofSource ⟨1⟩ true) 0.05
    let s : Supervisor Float := { Supervisor.standard 0 [] with running := true }
    let failed := (r.logged.resume s .ok).live [(s, .ok)]
    let cancelled := (r.logged.resume s .ok).live [(s, .cancelled)]
    let t := Terminal.fresh true [119, 27]
    let typed : ReadingSession Float := .ofReader (.ofSource (.keyboard .closed t) false) 0.05
    let exits := (typed.resume s .ok).live [(s, .ok), (s.stop, .ok)]
    (Equipment.start r.reader.source).result = .ok () ∧
      (failed.need = .over (.raised .noController) ∧
        ∃ before, failed.session.reader.source.calls = before ++ [.stop] ∧ .stop ∉ before) ∧
      (cancelled.need = .over .cancelled ∧
        ∃ before, cancelled.session.reader.source.calls = before ++ [.stop] ∧ .stop ∉ before) ∧
      exits.need = .over .returned ∧
        ∃ pending, exits.session.reader.source = .keyboard .closed { t with pending } := by
  intro r s failed cancelled t typed exits
  obtain ⟨sessions, -, restored⟩ := started_source_is_stopped_once (R := Float) (σ := Fading)
  have printed : ∀ why, (Equipment.print helpText
      (Equipment.start r.reader.source).state).result ≠ .error why := nofun
  have fails : failed.need = .over (.raised .noController) := by decide +kernel
  have ends : cancelled.need = .over .cancelled := by decide +kernel
  have returns : exits.need = .over .returned := by decide +kernel
  have once : ∀ life ending, ((r.logged.resume s .ok).live life).need = .over ending →
      ∃ before, ((r.logged.resume s .ok).live life).session.reader.source.calls =
        before ++ [.stop] ∧ .stop ∉ before := by
    intro life ending ended
    obtain ⟨-, -, finished⟩ := sessions r s life rfl rfl
    rcases finished ending ended with released | ⟨-, why, unprinted⟩
    · exact released
    · exact absurd unprinted (printed why)
  exact ⟨rfl, ⟨fails, once _ _ fails⟩, ⟨ends, once _ _ ends⟩, returns,
    restored typed t s _ _ rfl rfl returns⟩

end ReadingSession
end Quadruped
