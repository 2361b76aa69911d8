import Quadruped.Proofs.Supervisor.Failsafe

/-!
Whether a supervisor has been active, told from where its run stands: not before the first tick, and
always from there on. No turn leaves it stopped but the one that ends the run.
-/
namespace Quadruped

variable {R : Type}

namespace Supervisor

structure Rising (s : Supervisor R) : Prop where
  activated : s.activated = false
  status : s.status = .disconnected ∨ s.status = .starting

structure Risen (s : Supervisor R) : Prop where
  activated : s.activated = true
  status : s.status = .active ∨ s.status = .failsafe

/-- How a supervisor stands while its run is on a leg. -/
def Abreast (s : Supervisor R) : Leg → Prop
  | .startup => s.Rising
  | .halt => s.Rising
  | .tick => s.Risen
  | .failsafe => s.Risen
  | .cleanup => s.Rising ∨ s.Risen

variable {s : Supervisor R}

theorem Abreast.either {leg : Leg} (before : s.Abreast leg) : s.Rising ∨ s.Risen := by
  cases leg with
  | startup => exact .inl before
  | halt => exact .inl before
  | tick => exact .inr before
  | failsafe => exact .inr before
  | cleanup => exact before

theorem Abreast.of_same {t : Supervisor R} {leg : Leg} (before : s.Abreast leg)
    (status : t.status = s.status) (activated : t.activated = s.activated) : t.Abreast leg := by
  have rising : s.Rising → t.Rising := fun r => ⟨activated.trans r.activated, status ▸ r.status⟩
  have risen : s.Risen → t.Risen := fun r => ⟨activated.trans r.activated, status ▸ r.status⟩
  cases leg with
  | startup => exact rising before
  | halt => exact rising before
  | tick => exact risen before
  | failsafe => exact risen before
  | cleanup => exact before.imp rising risen

theorem Rising.not_active (before : s.Rising) : s.status ≠ .active := by
  rcases before.status with same | same <;> simp [same]

theorem Rising.starts (before : s.Rising) (now : R) :
    (s.transition now .starting).1.Rising := by
  refine ⟨?_, .inr (s.transition_status now _)⟩
  unfold transition
  split
  · exact before.activated
  · exact Bool.or_eq_false_iff.mpr ⟨before.activated, rfl⟩

theorem Rising.activates (before : s.Rising) (now : R) : (s.transition now .active).1.Risen := by
  refine ⟨?_, .inl (s.transition_status now _)⟩
  unfold transition
  rw [if_neg (Ne.symm before.not_active)]
  exact Bool.or_eq_true_iff.mpr (.inr rfl)

theorem Risen.fails (before : s.Risen) (now : R) : (s.transition now .failsafe).1.Risen := by
  refine ⟨?_, .inr (s.transition_status now _)⟩
  unfold transition
  split
  · exact before.activated
  · exact Bool.or_eq_true_iff.mpr (.inl before.activated)

end Supervisor

namespace Run

def Progress.Abreast (p : Progress R) : Prop :=
  (∃ e, p.request = .finish e) ∨ p.supervisor.Abreast p.run.leg

variable {m : Moment R} {s : Supervisor R}

theorem conclude_abreast (e : Ending R) : (conclude m s e).Abreast := .inl ⟨e, rfl⟩

theorem windDown_abreast (e : Ending R) (before : s.Rising ∨ s.Risen) :
    (windDown m s e).Abreast := by
  have either : s.Abreast .cleanup := before
  have cancelled : s.stop.cancelPlan.1.Abreast .cleanup := either.of_same rfl rfl
  rcases windDown_cases m s e with ⟨_, run, _, eq⟩ | ⟨_, _, request, _⟩
  · refine .inr ?_
    rw [run, eq]
    exact cancelled
  · exact .inl ⟨e, request⟩

theorem balance_abreast (n : Nat) (before : s.Rising) : (balance m s n).Abreast := by
  rcases balance_cases m s n with ⟨_, eq⟩ | ⟨left, _, _, eq⟩ | ⟨_, eq⟩
  · rw [eq]; exact .inr before
  · rw [eq]; exact .inr before
  · rw [eq]; exact windDown_abreast _ (.inl before)

theorem stand_abreast (n : Nat) (before : s.Rising) : (stand m s n).Abreast := by
  rcases stand_cases m s n with ⟨_, notes, eq⟩ | ⟨left, _, _, eq⟩ | ⟨_, eq⟩
  · rw [eq]; exact balance_abreast _ before
  · rw [eq]; exact .inr before
  · rw [eq]; exact windDown_abreast _ (.inl before)

theorem trip_abreast (k : Keeper R) (why : Fault R) (before : s.Risen) :
    (trip m s k why).Abreast := by
  have idle : ({ s.cancelPlan.1 with mode := s.cancelPlan.1.mode.set .idle } :
      Supervisor R).Risen := ⟨before.activated, before.status⟩
  exact .inr (idle.fails (m.told .failsafe))

variable [Scalar R]

theorem settleTick_abreast (choice : Supervisor.Choice R) (k : Keeper R) (before : s.Risen) :
    (settleTick m s choice k).Abreast := by
  obtain ⟨mode, eq⟩ := s.settle_only choice.mode
  refine .inr ?_
  change (s.settle choice.mode).1.Risen
  rw [eq]
  exact ⟨before.activated, before.status⟩

theorem nextTick_abreast (k : Keeper R) (before : s.Risen) : (nextTick m s k).Abreast := by
  have chosen : (s.choose m.plan).state.Risen := by
    obtain ⟨runner, dispatch, eq⟩ := s.choose_only m.plan
    rw [eq]
    exact ⟨before.activated, before.status⟩
  have wired (c : Command R) : ((s.choose m.plan).state.wire c).1.Risen := by
    obtain ⟨latched, eq⟩ := (s.choose m.plan).state.wire_only c
    rw [eq]
    exact ⟨chosen.activated, chosen.status⟩
  rcases nextTick_cases m s k with
    ⟨_, eq⟩ | ⟨why, notes, _, _, eq⟩ | ⟨choice, notes, _, _, eq | eq⟩
  · rw [eq]; exact windDown_abreast _ (.inr before)
  · rw [eq]; exact trip_abreast k why chosen
  · rw [eq]; exact .inr (wired choice.command)
  · rw [eq]; exact settleTick_abreast choice k (wired choice.command)

theorem activate_abreast (before : s.Rising) : (activate m s).Abreast := by
  have active := before.activates (m.told .active)
  rcases activate_cases m s with ⟨e, eq⟩ | ⟨e, notes, _, eq⟩ | ⟨k, notes, _, eq⟩
  · rw [eq]; exact windDown_abreast e (.inl before)
  · rw [eq]; exact windDown_abreast e (.inr active)
  · rw [eq]; exact nextTick_abreast k active

theorem abreast_turn {run : Run R} {reply : Reply R} {p : Progress R}
    (before : s.Abreast run.leg) (turn : Turn m s run reply p) : p.Abreast := by
  cases turn with
  | begins i =>
    have rising : s.Rising := before
    have running : ({ s with running := true } : Supervisor R).Rising :=
      ⟨rising.activated, rising.status⟩
    exact .inr running
  | neverBegins i reply h => exact .inl ⟨.cancelled, rfl⟩
  | staysOver e reply => exact .inl ⟨e, rfl⟩
  | connects i notes => exact stand_abreast _ (before.starts (m.told .starting))
  | dwells p n => exact .inr before
  | stands n => exact stand_abreast n before
  | balances p n h => exact balance_abreast n before
  | halts notes => exact activate_abreast before
  | sent choice k notes =>
    have risen : s.Risen := before
    exact settleTick_abreast choice k ⟨risen.activated, risen.status⟩
  | trips choice k why => exact trip_abreast k why before
  | paces k reply notes h => exact .inr before
  | ticks k => exact nextTick_abreast k before
  | leaves e => exact .inr before
  | parkingFails e why => exact conclude_abreast e
  | concludes e => exact conclude_abreast e
  | leavingFails e why => exact conclude_abreast e
  | abandons run e reply h cut => exact .inl ⟨.cancelled, rfl⟩
  | closes run reply e notes h failed => exact windDown_abreast e before.either

end Run
end Quadruped
