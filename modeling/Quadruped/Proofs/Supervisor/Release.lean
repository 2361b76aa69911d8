import Quadruped.Proofs.Supervisor.Turn

/-!
What a run asks of the robot, and how it was answered. A run that has connected ends with a stop; it
asks to be disconnected once that stop has been taken, and never where the stop has failed.
-/
namespace Quadruped

variable {R : Type}

structure Exchange (R : Type) where
  request : Request R
  reply : Reply R

namespace Exchange

def links (was : Bool) (x : Exchange R) : Bool :=
  match x.request, x.reply with
  | .connect _, .ok => true
  | .disconnect, .ok => false
  | _, _ => was

def parts (x : Exchange R) : Bool :=
  match x.request with
  | .disconnect => true
  | _ => false

def sent? (x : Exchange R) : Option (Command R × Reply R) :=
  match x.request with
  | .send c => some (c, x.reply)
  | _ => none

def linked (xs : List (Exchange R)) : Bool := xs.foldl links false

def partings (xs : List (Exchange R)) : Nat := xs.countP parts

def lastSent? (xs : List (Exchange R)) : Option (Command R × Reply R) :=
  (xs.filterMap sent?).getLast?

structure Met (xs : List (Exchange R)) : Prop where
  linked : linked xs = true
  partings : partings xs = 0

structure Unmet (xs : List (Exchange R)) : Prop where
  never : ∀ i, ⟨.connect i, .ok⟩ ∉ xs
  linked : Exchange.linked xs = false
  partings : Exchange.partings xs = 0

end Exchange

/-- An answer that leaves a cleanup to run to its end. -/
def Reply.Handled : Reply R → Prop
  | .ok | .raised _ => True
  | _ => False

def Request.Ordinary : Request R → Prop
  | .send _ | .sleep _ | .finish _ => True
  | _ => False

namespace Exchange

variable {xs : List (Exchange R)}

theorem ordinary_linked {request : Request R} (ordinary : request.Ordinary) (reply : Reply R) :
    linked (xs ++ [⟨request, reply⟩]) = linked xs := by
  cases request with
  | connect | disconnect => exact False.elim ordinary
  | send | sleep | finish => simp [linked, links]

theorem ordinary_partings {request : Request R} (ordinary : request.Ordinary) (reply : Reply R) :
    partings (xs ++ [⟨request, reply⟩]) = partings xs := by
  cases request with
  | connect | disconnect => exact False.elim ordinary
  | send | sleep | finish => simp [partings, parts]

theorem lastSent_sent (c : Command R) (reply : Reply R) :
    lastSent? (xs ++ [⟨.send c, reply⟩]) = some (c, reply) := by
  simp [lastSent?, sent?]

theorem lastSent_kept {request : Request R} (silent : ∀ c, request ≠ .send c) (reply : Reply R) :
    lastSent? (xs ++ [⟨request, reply⟩]) = lastSent? xs := by
  cases request with
  | send c => exact absurd rfl (silent c)
  | connect | sleep | disconnect | finish => simp [lastSent?, sent?]

theorem met_ordinary {request : Request R} (met : Met xs) (ordinary : request.Ordinary)
    (reply : Reply R) : Met (xs ++ [⟨request, reply⟩]) :=
  ⟨(ordinary_linked ordinary reply).trans met.linked,
    (ordinary_partings ordinary reply).trans met.partings⟩

theorem unmet_ordinary {request : Request R} (unmet : Unmet xs) (ordinary : request.Ordinary)
    (reply : Reply R) : Unmet (xs ++ [⟨request, reply⟩]) where
  never i mem := by
    rcases List.mem_append.mp mem with before | last
    · exact unmet.never i before
    · cases List.mem_singleton.mp last
      exact ordinary
  linked := (ordinary_linked ordinary reply).trans unmet.linked
  partings := (ordinary_partings ordinary reply).trans unmet.partings

theorem unmet_connects (unmet : Unmet xs) (i : String) : Met (xs ++ [⟨.connect i, .ok⟩]) := by
  constructor
  · simp [linked, links]
  · simpa [partings, parts] using unmet.partings

theorem unmet_refused (unmet : Unmet xs) (i : String) {reply : Reply R} (refused : reply ≠ .ok) :
    Unmet (xs ++ [⟨.connect i, reply⟩]) where
  never j mem := by
    rcases List.mem_append.mp mem with before | last
    · exact unmet.never j before
    · cases List.mem_singleton.mp last
      exact refused rfl
  linked := by
    have same : linked (xs ++ [⟨.connect i, reply⟩]) = linked xs := by
      cases reply with
      | ok => exact absurd rfl refused
      | _ => simp [linked, links]
    exact same.trans unmet.linked
  partings := by simpa [partings, parts] using unmet.partings

end Exchange

open Exchange in
/-- Where a run may stand, with what it waits for and what was answered before. -/
inductive Standing (status : Status) (xs : List (Exchange R)) : Run R → Request R → Prop where
  | meets (i : String) (unmet : Unmet xs) : Standing status xs (.connecting i) (.connect i)
  | works (run : Run R) (request : Request R) (under_way : run.UnderWay)
      (busy : (∃ c, request = .send c) ∨ ∃ d, request = .sleep d) (met : Met xs) :
      Standing status xs run request
  | parks (e : Ending R) (met : Met xs) : Standing status xs (.parking e) (.send .stop)
  | leaves (e : Ending R) (met : Met xs) (taken : lastSent? xs = some (.stop, .ok)) :
      Standing status xs (.leaving e) .disconnect
  | strange (e : Ending R) (unmet : Unmet xs) : Standing status xs (.over e) (.finish e)
  | stuck (e : Ending R) (reply : Reply R) (failed : reply ≠ .ok) (met : Met xs)
      (last : lastSent? xs = some (.stop, reply)) (closed : reply.Handled → status = .stopped) :
      Standing status xs (.over e) (.finish e)
  | released (e : Ending R) (reply : Reply R) (asked : ⟨.disconnect, reply⟩ ∈ xs)
      (once : partings xs = 1) (last : lastSent? xs = some (.stop, .ok))
      (freed : reply = .ok → linked xs = false) (closed : reply.Handled → status = .stopped) :
      Standing status xs (.over e) (.finish e)

namespace Standing

open Exchange Run

variable {xs : List (Exchange R)} {m : Moment R}

theorem goes_on {p : Progress R} (goes : p.GoesOn m) (met : Met xs)
    (truth : m.connected = linked xs) : Standing p.supervisor.status xs p.run p.request := by
  -- the robot is known to be connected, so a cleanup does not pass over the last stop
  rw [met.linked] at truth
  rcases goes with ⟨under_way, busy⟩ | ⟨s, e, notes, rfl⟩
  · exact .works _ _ under_way busy met
  · rcases windDown_cases m s e with ⟨_, run, request, _⟩ | ⟨away, _⟩
    · rw [after_run, after_request, run, request]
      exact .parks e met
    · rw [truth] at away
      cases away

theorem over_stays {status : Status} {e : Ending R} {request : Request R} (reply : Reply R)
    (before : Standing status xs (.over e) request) :
    Standing status (xs ++ [⟨request, reply⟩]) (.over e) (.finish e) := by
  have silent : ∀ c, (Request.finish e : Request R) ≠ .send c := by intro c same; cases same
  have ordinary : (Request.finish e : Request R).Ordinary := trivial
  cases before with
  | works run request under_way busy met => exact False.elim under_way
  | strange e unmet => exact .strange e (unmet_ordinary unmet ordinary reply)
  | stuck e last failed met sent closed =>
    exact .stuck e last failed (met_ordinary met ordinary reply)
      ((lastSent_kept silent reply).trans sent) closed
  | released e last asked once sent freed closed =>
    exact .released e last (List.mem_append_left _ asked)
      ((ordinary_partings ordinary reply).trans once) ((lastSent_kept silent reply).trans sent)
      (fun taken => (ordinary_linked ordinary reply).trans (freed taken)) closed

variable [Scalar R] {s : Supervisor R} {reply : Reply R} {p : Progress R}

theorem meeting_turn {i : String} (unmet : Unmet xs)
    (truth : m.connected = linked (xs ++ [⟨.connect i, reply⟩]))
    (turn : Turn m s (.connecting i) reply p) :
    Standing p.supervisor.status (xs ++ [⟨.connect i, reply⟩]) p.run p.request := by
  have under_way : (Run.connecting i : Run R).UnderWay := trivial
  have goes := under_way_goes_on under_way turn
  generalize connecting : Run.connecting i = run at turn
  cases turn with
  | connects j notes => exact goes_on goes (unmet_connects unmet i) truth
  | abandons run e reply h cut => rcases h with rfl | rfl <;> cases connecting
  | closes run reply e notes h failed =>
    have still := unmet_refused unmet i failed
    rw [still.linked] at truth
    rcases windDown_cases m s e with ⟨there, _⟩ | ⟨_, run, request, _⟩
    · rw [truth] at there
      cases there
    · rw [after_run, after_request, run, request]
      exact .strange e still
  | _ => cases connecting

theorem parking_turn {e : Ending R} (met : Met xs) (turn : Turn m s (.parking e) reply p) :
    Standing p.supervisor.status (xs ++ [⟨.send .stop, reply⟩]) p.run p.request := by
  have ordinary : (Request.send .stop : Request R).Ordinary := trivial
  have still := met_ordinary met ordinary reply
  have sent : lastSent? (xs ++ [⟨.send .stop, reply⟩]) = some (.stop, reply) :=
    lastSent_sent .stop reply
  cases turn with
  | leaves e => exact .leaves e still sent
  | parkingFails e why =>
    exact .stuck e _ (by simp) still sent fun _ => s.transition_status (m.told .stopped) .stopped
  | abandons run e reply h cut =>
    refine .stuck _ reply ?_ still sent ?_
    · rintro rfl; simp at cut
    · rcases cut with rfl | rfl <;> exact False.elim
  | closes run reply e notes h failed => exact False.elim h

theorem leaving_turn {e : Ending R} (met : Met xs) (taken : lastSent? xs = some (.stop, .ok))
    (turn : Turn m s (.leaving e) reply p) :
    Standing p.supervisor.status (xs ++ [⟨.disconnect, reply⟩]) p.run p.request := by
  have asked : (⟨.disconnect, reply⟩ : Exchange R) ∈ xs ++ [⟨.disconnect, reply⟩] := by simp
  have once : partings (xs ++ [⟨.disconnect, reply⟩]) = 1 := by
    simpa [partings, parts] using met.partings
  have sent : lastSent? (xs ++ [⟨.disconnect, reply⟩]) = some (.stop, .ok) :=
    (lastSent_kept (by intro c same; cases same) reply).trans taken
  have freed : reply = .ok → linked (xs ++ [⟨.disconnect, reply⟩]) = false := by
    rintro rfl
    simp [linked, links]
  cases turn with
  | concludes e | leavingFails e why =>
    exact .released e _ asked once sent freed fun _ => s.transition_status (m.told .stopped) .stopped
  | abandons run e reply h cut =>
    refine .released _ reply asked once sent freed ?_
    rcases cut with rfl | rfl <;> exact False.elim
  | closes run reply e notes h failed => exact False.elim h

theorem over_turn {e : Ending R} {request : Request R}
    (before : Standing s.status xs (.over e) request) (turn : Turn m s (.over e) reply p) :
    Standing p.supervisor.status (xs ++ [⟨request, reply⟩]) p.run p.request := by
  cases turn with
  | staysOver e reply => exact before.over_stays reply
  | abandons run e reply h cut => rcases h with same | same <;> cases same
  | closes run reply e notes h failed => exact False.elim h

theorem turn {run : Run R} {request : Request R} (before : Standing s.status xs run request)
    (truth : m.connected = linked (xs ++ [⟨request, reply⟩])) (turn : Turn m s run reply p) :
    Standing p.supervisor.status (xs ++ [⟨request, reply⟩]) p.run p.request := by
  cases before with
  | meets i unmet => exact meeting_turn unmet truth turn
  | works run request under_way busy met =>
    have ordinary : request.Ordinary := by
      rcases busy with ⟨c, rfl⟩ | ⟨d, rfl⟩ <;> trivial
    exact goes_on (under_way_goes_on under_way turn) (met_ordinary met ordinary reply) truth
  | parks e met => exact parking_turn met turn
  | leaves e met taken => exact leaving_turn met taken turn
  | strange e unmet => exact over_turn (.strange e unmet) turn
  | stuck e last failed met sent closed => exact over_turn (.stuck e last failed met sent closed) turn
  | released e last asked once sent freed closed =>
    exact over_turn (.released e last asked once sent freed closed) turn

end Standing

/-- A course with the request that its run waits to have answered, and the exchanges before it. -/
structure Dialogue (R : Type) where
  course : Course R
  request : Request R
  exchanges : List (Exchange R)

namespace Dialogue

open Exchange

variable [Scalar R]

def begin (s : Supervisor R) (interface : String) : Dialogue R :=
  ⟨.begin s interface, .connect interface, []⟩

def step (d : Dialogue R) (e : Event R) : Dialogue R :=
  match e with
  | .answer m reply =>
    ⟨d.course.step e, (d.course.run.resume m d.course.supervisor reply).request,
      d.exchanges ++ [⟨d.request, reply⟩]⟩
  | _ => { d with course := d.course.step e }

def after (d : Dialogue R) (events : List (Event R)) : Dialogue R := events.foldl step d

def Truthful : Dialogue R → List (Event R) → Prop
  | _, [] => True
  | d, e :: rest =>
    (∀ m reply, e = .answer m reply → m.connected = linked (d.step e).exchanges) ∧
      (d.step e).Truthful rest

def Stands (d : Dialogue R) : Prop :=
  Standing d.course.supervisor.status d.exchanges d.course.run d.request

theorem step_course (d : Dialogue R) (e : Event R) : (d.step e).course = d.course.step e := by
  cases e <;> rfl

theorem after_course (events : List (Event R)) (d : Dialogue R) :
    (d.after events).course = d.course.after events := by
  induction events generalizing d with
  | nil => rfl
  | cons e rest ih => exact (ih (d.step e)).trans (congrArg (Course.after · rest) (d.step_course e))

theorem step_stands {d : Dialogue R} {e : Event R} (before : d.Stands)
    (truth : ∀ m reply, e = .answer m reply → m.connected = linked (d.step e).exchanges) :
    (d.step e).Stands := by
  cases e with
  | call c =>
    have same := d.course.supervisor.obey_status c
    unfold Stands at before ⊢
    simpa [step, Course.step, same] using before
  | upset r => exact before
  | answer m reply =>
    exact before.turn (truth m reply rfl)
      (Run.resume_turn m d.course.supervisor d.course.run reply)

theorem after_stands (events : List (Event R)) {d : Dialogue R} (before : d.Stands)
    (truthful : d.Truthful events) : (d.after events).Stands := by
  induction events generalizing d with
  | nil => exact before
  | cons e rest ih => exact ih (step_stands before truthful.1) truthful.2

omit [Scalar R] in
theorem begin_stands (s : Supervisor R) (interface : String) : (begin s interface).Stands := by
  refine .meets interface ⟨?_, rfl, rfl⟩
  intro i mem
  cases mem

/-- A run that has connected sends a stop last. Where the robot takes that stop it is asked to
disconnect, once; where the stop fails it is not asked, and stays connected. -/
theorem run_is_released_once_its_last_stop_is_taken (s : Supervisor R) (interface : String)
    (events : List (Event R)) (e : Ending R)
    (truthful : (begin s interface).Truthful events)
    (ended : ((begin s interface).after events).course.run = .over e)
    (connected : ∃ i, ⟨.connect i, .ok⟩ ∈ ((begin s interface).after events).exchanges) :
    let d := (begin s interface).after events
    ∃ reply, lastSent? d.exchanges = some (.stop, reply) ∧
      (reply = .ok → partings d.exchanges = 1 ∧
        ∃ answer, ⟨.disconnect, answer⟩ ∈ d.exchanges ∧
          (answer = .ok → linked d.exchanges = false) ∧
          (answer.Handled → d.course.supervisor.status = .stopped)) ∧
      (reply ≠ .ok → partings d.exchanges = 0 ∧ linked d.exchanges = true ∧
        (reply.Handled → d.course.supervisor.status = .stopped)) := by
  intro d
  have stands : d.Stands := after_stands events (begin_stands s interface) truthful
  unfold Stands at stands
  rw [ended] at stands
  generalize d.request = request at stands
  cases stands with
  | works run request under_way busy met => exact False.elim under_way
  | strange e unmet =>
    obtain ⟨i, there⟩ := connected
    exact absurd there (unmet.never i)
  | stuck e reply failed met last closed =>
    exact ⟨reply, last, fun taken => absurd taken failed, fun _ => ⟨met.partings, met.linked, closed⟩⟩
  | released e answer asked once last freed closed =>
    exact ⟨.ok, last, fun _ => ⟨once, answer, asked, freed, closed⟩, fun failed => absurd rfl failed⟩

theorem failing_tick_is_followed_by_release :
    let events : List (Event Float) := [.answer (.frozen 0 true) .ok, .answer (.frozen 0 true) .ok,
      .answer (.frozen 0 true) (.raised (.breakdown .send)), .answer (.frozen 0 true) .ok, .call .stop,
      .answer (.frozen 0 true) .ok, .answer (.frozen 0 true) .ok, .answer (.frozen 0 false) .ok]
    let d := (begin (.standard 0 []) "sim").after events
    (begin (.standard 0 []) "sim").Truthful events ∧ d.course.run = .over .returned ∧
      partings d.exchanges = 1 ∧ linked d.exchanges = false ∧
      d.course.supervisor.status = .stopped := by
  intro events d
  have truthful : (begin (.standard 0 []) "sim").Truthful events := by
    refine ⟨?_, ?_, ?_, ?_, ?_, ?_, ?_, ?_, trivial⟩ <;> intro m reply same <;> cases same <;>
      decide +kernel
  have ended : d.course.run = .over .returned := by decide +kernel
  have connected : ∃ i, ⟨.connect i, .ok⟩ ∈ d.exchanges := ⟨"sim", List.mem_cons_self⟩
  have taken : lastSent? d.exchanges = some (.stop, .ok) := by decide +kernel
  obtain ⟨reply, last, released, _⟩ :=
    run_is_released_once_its_last_stop_is_taken _ _ events .returned truthful ended connected
  rw [taken] at last
  cases last
  exact ⟨truthful, ended, (released rfl).1, by decide +kernel, by decide +kernel⟩

/-- The robot takes every command but the last stop, and is never asked to disconnect. -/
theorem failed_last_stop_keeps_robot_connected :
    let events : List (Event Float) := [.answer (.frozen 0 true) .ok, .answer (.frozen 0 true) .ok,
      .answer (.frozen 0 true) .ok, .call .stop, .answer (.frozen 0 true) .ok,
      .answer (.frozen 0 true) (.raised (.breakdown .send))]
    let d := (begin (.standard 0 []) "sim").after events
    d.course.run = .over .returned ∧ d.course.supervisor.status = .stopped ∧
      lastSent? d.exchanges = some (.stop, .raised (.breakdown .send)) ∧
      partings d.exchanges = 0 ∧ linked d.exchanges = true := by
  decide +kernel

end Dialogue
end Quadruped
