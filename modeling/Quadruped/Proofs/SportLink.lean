import Mathlib.Data.List.Induction
import Quadruped.Number.Double
import Quadruped.Proofs.Outcome
import Quadruped.SportLink

/-!
When the commands of a link reach the robot. A send asks for a client and not for a connection: the
client that a connect has made outlives a failure of that connect and every disconnect, and takes
commands all the same. Only the stop of a disconnect asks for both.
-/
namespace Quadruped

variable {R : Type}

namespace LinkCall

def isCommand : LinkCall R → Bool
  | move _ => true
  | take _ => true
  | _ => false

def toClient (domain : Int) (interface : String) : List (LinkCall R) :=
  [openChannel domain interface, subscribe SportLink.topic, listen 10, makeClient]

def toConnection (timeout : R) : List (LinkCall R) := [setTimeout timeout, initClient]

def opening (timeout : R) (domain : Int) (interface : String) : List (LinkCall R) :=
  toClient domain interface ++ toConnection timeout

/-- The calls made of a list: up to the first that fails. -/
def made (faulty : LinkCall R → Bool) : List (LinkCall R) → List (LinkCall R)
  | [] => []
  | c :: cs => if faulty c then [c] else c :: made faulty cs

theorem made_subset (faulty : LinkCall R → Bool) (cs : List (LinkCall R)) :
    made faulty cs ⊆ cs := by
  induction cs with
  | nil => exact List.Subset.refl _
  | cons c cs ih =>
    unfold made
    split
    · exact List.cons_subset_cons c (List.nil_subset cs)
    · exact List.cons_subset_cons c ih

theorem ofCommand_isCommand (c : Command R) : (ofCommand c).isCommand = true := by
  cases c <;> rfl

theorem opening_has_no_command {timeout : R} {domain : Int} {interface : String} {c : LinkCall R}
    (member : c ∈ opening timeout domain interface) : c.isCommand = false := by
  simp only [opening, toClient, toConnection, List.cons_append, List.nil_append, List.mem_cons,
    List.not_mem_nil, or_false] at member
  rcases member with rfl | rfl | rfl | rfl | rfl | rfl <;> rfl

end LinkCall

inductive LinkRequest (R : Type) where
  | connect (interface : String)
  | disconnect
  | send (c : Command R)

/-- A request, and the calls that fail while it is met. -/
structure LinkAttempt (R : Type) where
  request : LinkRequest R
  faulty : LinkCall R → Bool

namespace LinkAttempt

def makesClient (domain : Int) (a : LinkAttempt R) : Bool :=
  match a.request with
  | .connect interface => !(LinkCall.toClient domain interface).any a.faulty
  | .disconnect => false
  | .send _ => false

/-- Whether there is a connection after an attempt: a connect makes one where none of its calls
fails, and a disconnect ends it where neither of its two calls fails. -/
def connection (timeout : R) (domain : Int) (before : Bool) (a : LinkAttempt R) : Bool :=
  match a.request with
  | .connect interface => before || !(LinkCall.opening timeout domain interface).any a.faulty
  | .disconnect => before && (a.faulty (.take .stop) || a.faulty .closeChannel)
  | .send _ => before

end LinkAttempt

namespace SportLink

def meet (l : SportLink R) (a : LinkAttempt R) : SportLink R :=
  match a.request with
  | .connect interface => (l.connect a.faulty interface).1
  | .disconnect => (l.disconnect a.faulty).state
  | .send c => (l.send a.faulty c).state

def after (l : SportLink R) (attempts : List (LinkAttempt R)) : SportLink R := attempts.foldl meet l

theorem after_append (l : SportLink R) (before : List (LinkAttempt R)) (a : LinkAttempt R) :
    l.after (before ++ [a]) = (l.after before).meet a := by
  simp [after]

def noted (l : SportLink R) (calls : List (LinkCall R)) : SportLink R :=
  { l with trace := l.trace ++ calls.map (·, l.connected) }

theorem call_andThen {α : Type} (faulty : LinkCall R → Bool) (l : SportLink R) (c : LinkCall R)
    (next : SportLink R → Unit → Outcome R (SportLink R) α) :
    (l.call faulty c).andThen next =
      if faulty c then .fail (l.noted [c]) (.callFailed c.name) [] else next (l.noted [c]) () := by
  unfold call
  split <;> rfl

theorem openLink_only (faulty : LinkCall R → Bool) (l : SportLink R) (interface : String) :
    (l.openLink faulty interface).state =
        { l.noted (LinkCall.made faulty (LinkCall.opening l.timeout l.domain interface)) with
          hasChannel := l.hasChannel ||
            !(faulty (.openChannel l.domain interface) || faulty (.subscribe topic))
          hasClient := l.hasClient || !(LinkCall.toClient l.domain interface).any faulty } ∧
      ((l.openLink faulty interface).result = .ok () ↔
        (LinkCall.opening l.timeout l.domain interface).any faulty = false) := by
  simp only [openLink, Outcome.andThen_assoc]
  simp only [call_andThen]
  simp only [call, noted, LinkCall.opening, LinkCall.toClient, LinkCall.toConnection,
    LinkCall.made, List.cons_append, List.nil_append]
  by_cases first : faulty (.openChannel l.domain interface) = true
  · simp [first]
  by_cases second : faulty (.subscribe topic) = true
  · simp [first, second]
  by_cases third : faulty (.listen 10) = true
  · simp [first, second, third]
  by_cases fourth : faulty .makeClient = true
  · simp [first, second, third, fourth]
  by_cases fifth : faulty (.setTimeout l.timeout) = true
  · simp [first, second, third, fourth, fifth]
  by_cases sixth : faulty .initClient = true
  · simp [first, second, third, fourth, fifth, sixth]
  · simp [first, second, third, fourth, fifth, sixth]

theorem connect_only (faulty : LinkCall R → Bool) (l : SportLink R) (interface : String) :
    (l.connect faulty interface).1 =
      { (l.openLink faulty interface).state with
        connected :=
          l.connected || !(LinkCall.opening l.timeout l.domain interface).any faulty } := by
  obtain ⟨state, result⟩ := openLink_only faulty l interface
  have same : (l.openLink faulty interface).state.connected = l.connected := by rw [state]; rfl
  unfold connect
  dsimp only
  split
  · rename_i why h
    have failing : (LinkCall.opening l.timeout l.domain interface).any faulty = true := by
      simpa only [h, reduceCtorEq, false_iff, Bool.not_eq_false] using result
    rw [failing, Bool.not_true, Bool.or_false, ← same]
  · rename_i h
    rw [result.mp h, Bool.not_false, Bool.or_true]

def releasing (l : SportLink R) : List (LinkCall R) :=
  (if l.hasClient && l.connected then [.take .stop] else []) ++
    if l.hasChannel then [.closeChannel] else []

theorem disconnect_only (faulty : LinkCall R → Bool) (l : SportLink R) :
    (l.disconnect faulty).state =
      { l.noted (LinkCall.made faulty l.releasing) with
        hasChannel := l.hasChannel && l.releasing.any faulty
        connected := l.connected && l.releasing.any faulty } := by
  obtain ⟨timeout, domain, hasClient, hasChannel, connected, audience, trace⟩ := l
  -- a stop that fails keeps the channel from being closed, so what fails is split with what is held
  cases stop : faulty (.take .stop) <;> cases close : faulty .closeChannel <;>
    cases hasClient <;> cases hasChannel <;> cases connected <;>
      simp [disconnect, halt, onClient, closeChannel, call, releasing, noted, LinkCall.made,
        Outcome.andThen, Outcome.ok, Outcome.fail, stop, close]

theorem send_only (faulty : LinkCall R → Bool) (l : SportLink R) (c : Command R) :
    (l.send faulty c).state = if l.hasClient then l.noted [.ofCommand c] else l := by
  unfold send onClient call noted
  split
  · split <;> rfl
  · rfl

/-- No command was put to the robot while there was no connection. -/
def OnlyConnected (l : SportLink R) : Prop :=
  ∀ entry ∈ l.trace, entry.1.isCommand = true → entry.2 = true

instance (l : SportLink R) : Decidable l.OnlyConnected :=
  inferInstanceAs (Decidable (∀ entry ∈ l.trace, entry.1.isCommand = true → entry.2 = true))

theorem noted_onlyConnected (l : SportLink R) (calls : List (LinkCall R)) :
    (l.noted calls).OnlyConnected ↔
      l.OnlyConnected ∧ ∀ c ∈ calls, c.isCommand = true → l.connected = true := by
  simp only [OnlyConnected, noted, List.mem_append, List.mem_map, or_imp, forall_and]
  refine and_congr_right fun _ => ⟨fun noted c member => ?_, ?_⟩
  · exact noted (c, l.connected) ⟨c, member, rfl⟩
  · rintro connected _ ⟨c, member, rfl⟩
    exact connected c member

theorem meet_onlyConnected (l : SportLink R) (a : LinkAttempt R) :
    (l.meet a).OnlyConnected ↔
      l.OnlyConnected ∧
        ∀ c, a.request = .send c → l.hasClient = true → l.connected = true := by
  obtain ⟨request, faulty⟩ := a
  cases request with
  | connect interface =>
    have opening : (l.meet ⟨.connect interface, faulty⟩).OnlyConnected ↔
        (l.noted (LinkCall.made faulty
          (LinkCall.opening l.timeout l.domain interface))).OnlyConnected := by
      change (l.connect faulty interface).1.OnlyConnected ↔ _
      rw [connect_only, (openLink_only faulty l interface).1]
      rfl
    rw [opening, noted_onlyConnected]
    refine and_congr_right fun _ => ⟨fun _ c => nofun, fun _ c member command => ?_⟩
    have none := LinkCall.opening_has_no_command (LinkCall.made_subset faulty _ member)
    rw [none] at command
    cases command
  | disconnect =>
    have releasing : (l.meet ⟨.disconnect, faulty⟩).OnlyConnected ↔
        (l.noted (LinkCall.made faulty l.releasing)).OnlyConnected := by
      change (l.disconnect faulty).state.OnlyConnected ↔ _
      rw [disconnect_only]
      rfl
    rw [releasing, noted_onlyConnected]
    refine and_congr_right fun _ => ⟨fun _ c => nofun, fun _ c member command => ?_⟩
    have stopping := LinkCall.made_subset faulty _ member
    simp only [SportLink.releasing, List.mem_append] at stopping
    rcases stopping with stop | close
    · split at stop
      · rename_i both
        exact (Bool.and_eq_true_iff.mp both).2
      · cases stop
    · split at close
      · rw [List.mem_singleton.mp close] at command
        cases command
      · cases close
  | send c =>
    change (l.send faulty c).state.OnlyConnected ↔ _
    rw [send_only]
    split
    · rename_i client
      rw [noted_onlyConnected]
      refine and_congr_right fun _ => ⟨fun connected _ _ _ => ?_, fun connected _ _ _ => ?_⟩
      · exact connected _ (List.mem_singleton.mpr rfl) (LinkCall.ofCommand_isCommand c)
      · exact connected c rfl client
    · rename_i client
      exact ⟨fun only => ⟨only, fun _ _ has => absurd has client⟩, And.left⟩

/-- What a link has, told from the attempts on it alone. -/
structure Standing (timeout : R) (domain : Int) (attempts : List (LinkAttempt R))
    (l : SportLink R) : Prop where
  timed : l.timeout = timeout
  placed : l.domain = domain
  client : l.hasClient = attempts.any (LinkAttempt.makesClient domain)
  connection : l.connected = attempts.foldl (LinkAttempt.connection timeout domain) false
  equipped : l.connected = true → l.hasClient = true ∧ l.hasChannel = true

theorem create_standing {installed : Bool} {timeout : R} {domain : Int} {l : SportLink R}
    (made : create installed timeout domain = .ok l) :
    l.Standing timeout domain [] ∧ l.trace = [] := by
  unfold create at made
  split at made
  · cases made
    exact ⟨⟨rfl, rfl, rfl, rfl, nofun⟩, rfl⟩
  · cases made

theorem meet_standing {timeout : R} {domain : Int} {before : List (LinkAttempt R)}
    {l : SportLink R} (standing : l.Standing timeout domain before) (a : LinkAttempt R) :
    (l.meet a).Standing timeout domain (before ++ [a]) := by
  obtain ⟨rfl, rfl, client, connection, equipped⟩ := standing
  obtain ⟨request, faulty⟩ := a
  cases request with
  | connect interface =>
    change ((l.connect faulty interface).1).Standing _ _ _
    rw [connect_only, (openLink_only faulty l interface).1]
    refine ⟨rfl, rfl, ?_, ?_, ?_⟩
    · simp [client, LinkAttempt.makesClient]
    · simp [connection, LinkAttempt.connection]
    · intro connected
      rcases Bool.or_eq_true_iff.mp connected with before | now
      · simp [equipped before]
      · simp only [LinkCall.opening, LinkCall.toClient, LinkCall.toConnection] at now ⊢
        simp at now
        simp [now]
  | disconnect =>
    change (l.disconnect faulty).state.Standing _ _ _
    rw [disconnect_only]
    refine ⟨rfl, rfl, ?_, ?_, ?_⟩
    · simp [client, LinkAttempt.makesClient, noted]
    · cases before : l.connected with
      | false => simp [← connection, before, LinkAttempt.connection]
      | true => simp [← connection, before, equipped before, LinkAttempt.connection, releasing]
    · intro connected
      obtain ⟨before, failing⟩ := Bool.and_eq_true_iff.mp connected
      simp [equipped before, failing, noted]
  | send c =>
    have same : (l.send faulty c).state.Standing l.timeout l.domain before := by
      rw [send_only]
      split <;> exact ⟨rfl, rfl, client, connection, equipped⟩
    change (l.send faulty c).state.Standing _ _ _
    refine ⟨same.timed, same.placed, ?_, ?_, same.equipped⟩
    · simp [same.client, LinkAttempt.makesClient]
    · simp [same.connection, LinkAttempt.connection]

theorem after_standing {timeout : R} {domain : Int} {l : SportLink R}
    (standing : l.Standing timeout domain []) (attempts : List (LinkAttempt R)) :
    (l.after attempts).Standing timeout domain attempts := by
  induction attempts using List.reverseRecOn with
  | nil => exact standing
  | append_singleton before a ih =>
    rw [after_append]
    exact meet_standing ih a

theorem after_onlyConnected {timeout : R} {domain : Int} {l : SportLink R}
    (standing : l.Standing timeout domain []) (only : l.OnlyConnected)
    (attempts : List (LinkAttempt R)) :
    (l.after attempts).OnlyConnected ↔
      ∀ before c faulty, before ++ [⟨.send c, faulty⟩] <+: attempts →
        before.any (LinkAttempt.makesClient domain) = true →
          before.foldl (LinkAttempt.connection timeout domain) false = true := by
  induction attempts using List.reverseRecOn with
  | nil =>
    refine iff_of_true only fun before c faulty part => ?_
    exact absurd (List.prefix_nil.mp part) (List.append_ne_nil_of_right_ne_nil before nofun)
  | append_singleton earlier a ih =>
    have now := after_standing standing earlier
    rw [after_append, meet_onlyConnected, ih, now.client, now.connection]
    simp only [List.prefix_concat_iff]
    constructor
    · rintro ⟨old, last⟩ before c faulty (whole | part)
      · obtain ⟨rfl, same⟩ := List.append_inj' whole rfl
        cases same
        exact last c rfl
      · exact old before c faulty part
    · intro all
      refine ⟨fun before c faulty part => all before c faulty (.inr part), ?_⟩
      rintro c sent
      obtain ⟨request, faulty⟩ := a
      cases sent
      exact all earlier c faulty (.inl rfl)

/-- The robot is commanded through the client, which takes every command from the first connect that
has made it. So it is commanded without a connection where a send comes after such a connect and
there is no connection, and nowhere else. -/
theorem commands_need_a_client_only {installed : Bool} {timeout : R} {domain : Int}
    {l : SportLink R} (made : create installed timeout domain = .ok l)
    (attempts : List (LinkAttempt R)) :
    (l.after attempts).connected =
        attempts.foldl (LinkAttempt.connection timeout domain) false ∧
      (∀ (faulty : LinkCall R → Bool) (c : Command R),
        ((l.after attempts).send faulty c).state =
          if attempts.any (LinkAttempt.makesClient domain) then
            (l.after attempts).noted [.ofCommand c]
          else l.after attempts) ∧
      ((l.after attempts).OnlyConnected ↔
        ∀ before c faulty, before ++ [⟨.send c, faulty⟩] <+: attempts →
          before.any (LinkAttempt.makesClient domain) = true →
            before.foldl (LinkAttempt.connection timeout domain) false = true) := by
  obtain ⟨standing, silent⟩ := create_standing made
  have now := after_standing standing attempts
  refine ⟨now.connection, fun faulty c => ?_, after_onlyConnected standing ?_ attempts⟩
  · rw [send_only, now.client]
  · intro entry member
    rw [silent] at member
    cases member

theorem command_after_failed_connect :
    let l : SportLink Float := ⟨10, 0, false, false, false, ⟨[]⟩, []⟩
    let v : Velocity Float := ⟨0.5, 0, 0⟩
    let attempts : List (LinkAttempt Float) := [⟨.connect "eth0", (· == .initClient)⟩]
    create true 10 0 = .ok l ∧
      ((l.after attempts).send (fun _ => false) (.velocity v)).state =
        (l.after attempts).noted [.move v] := by
  intro l v attempts
  have made : create true 10 0 = .ok l := rfl
  have whole := (commands_need_a_client_only made attempts).2.1 (fun _ => false) (.velocity v)
  rw [if_pos (by decide +kernel)] at whole
  exact ⟨made, whole⟩

/-- A robot is moved after the disconnect, and after a connect that failed. -/
theorem robot_moves_without_connection :
    let l : SportLink Float := ⟨10, 0, false, false, false, ⟨[]⟩, []⟩
    let v : Velocity Float := ⟨0.5, 0, 0⟩
    let calm : LinkCall Float → Bool := fun _ => false
    let left := l.after [⟨.connect "eth0", calm⟩, ⟨.disconnect, calm⟩]
    let failed := l.after [⟨.connect "eth0", (· == .initClient)⟩]
    create true 10 0 = .ok l ∧
      (left.connected = false ∧
        (left.send calm (.velocity v)).state.trace = left.trace ++ [(.move v, false)] ∧
          ¬(left.send calm (.velocity v)).state.OnlyConnected) ∧
      (failed.connected = false ∧
        (failed.send calm (.velocity v)).state.trace = failed.trace ++ [(.move v, false)] ∧
          ¬(failed.send calm (.velocity v)).state.OnlyConnected) := by
  decide +kernel

end SportLink
end Quadruped
