import Quadruped.Plan.Check

/-!
What a plan is worth that has passed its check: its segments are those that were offered, there is at
least one, and every travel covers some distance.
-/
namespace Quadruped.Plan

variable {R : Type} [Scalar R]

theorem checkFrom_cons {index : Nat} {item : PlanItem R} {rest : List (PlanItem R)}
    {plan : List (Segment R)} (passed : checkFrom index (item :: rest) = .ok plan) :
    ∃ segment later, checkItem index item = .ok segment ∧
      checkFrom (index + 1) rest = .ok later ∧ plan = segment :: later := by
  cases first : checkItem index item with
  | error why => simp [checkFrom, first, bind, Except.bind] at passed
  | ok segment =>
    cases others : checkFrom (index + 1) rest with
    | error why => simp [checkFrom, first, others, bind, Except.bind] at passed
    | ok later =>
      have same : segment :: later = plan := by
        simpa [checkFrom, first, others, bind, Except.bind] using passed
      exact ⟨segment, later, rfl, rfl, same.symm⟩

theorem checked_filled {items : List (PlanItem R)} {plan : List (Segment R)}
    (passed : check items = .ok plan) : plan ≠ [] := by
  cases items with
  | nil => cases passed
  | cons item rest =>
    obtain ⟨segment, later, _, _, rfl⟩ := checkFrom_cons passed
    exact List.cons_ne_nil segment later

theorem checkItem_segment {index : Nat} {segment checked : Segment R}
    (passed : checkItem index (.segment segment) = .ok checked) :
    checked = segment ∧ ∀ d, segment = .travel d → Scalar.le d 0 = false := by
  cases segment with
  | turn h =>
    simp only [checkItem] at passed
    split at passed
    · cases passed
      exact ⟨rfl, by simp⟩
    · cases passed
  | travel e =>
    simp only [checkItem] at passed
    split at passed
    · rename_i far
      cases passed
      refine ⟨rfl, ?_⟩
      intro d same
      cases same
      simpa using (Bool.and_eq_true_iff.mp far).2
    · cases passed

theorem checkFrom_segments {index : Nat} {plan checked : List (Segment R)}
    (passed : checkFrom index (plan.map .segment) = .ok checked) :
    checked = plan ∧ ∀ d, .travel d ∈ plan → Scalar.le d 0 = false := by
  induction plan generalizing index checked with
  | nil =>
    cases passed
    exact ⟨rfl, by simp⟩
  | cons segment rest ih =>
    obtain ⟨first, later, item, others, rfl⟩ := checkFrom_cons passed
    obtain ⟨rfl, short⟩ := checkItem_segment item
    obtain ⟨rfl, afar⟩ := ih others
    refine ⟨rfl, ?_⟩
    intro d member
    rcases List.mem_cons.mp member with same | among
    · exact short d same.symm
    · exact afar d among

theorem check_segments {plan checked : List (Segment R)}
    (passed : check (plan.map .segment) = .ok checked) :
    checked = plan ∧ ∀ d, .travel d ∈ plan → Scalar.le d 0 = false := by
  unfold check at passed
  split at passed
  · cases passed
  · exact checkFrom_segments passed

theorem checkItem_heading {index : Nat} {item : PlanItem R} {h : R}
    (passed : checkItem index item = .ok (.turn h)) : Scalar.finite h = true := by
  unfold checkItem at passed
  split at passed
  · split at passed
    · rename_i finite
      cases passed
      exact finite
    · cases passed
  · split at passed <;> cases passed
  · cases passed

theorem checkFrom_headings {index : Nat} {items : List (PlanItem R)} {plan : List (Segment R)}
    (passed : checkFrom index items = .ok plan) {h : R} (member : .turn h ∈ plan) :
    Scalar.finite h = true := by
  induction items generalizing index plan with
  | nil =>
    cases passed
    cases member
  | cons item rest ih =>
    obtain ⟨segment, later, first, others, rfl⟩ := checkFrom_cons passed
    rcases List.mem_cons.mp member with rfl | among
    · exact checkItem_heading first
    · exact ih others among

theorem check_headings {items : List (PlanItem R)} {plan : List (Segment R)}
    (passed : check items = .ok plan) {h : R} (member : .turn h ∈ plan) :
    Scalar.finite h = true := by
  unfold check at passed
  split at passed
  · cases passed
  · exact checkFrom_headings passed member

end Quadruped.Plan
