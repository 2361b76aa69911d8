import Quadruped.Outcome

/-!
How the parts of a composed operation are read off: of a sequence, and of an operation that is seen
from a larger state.
-/
namespace Quadruped.Outcome

variable {R σ τ α β : Type}

@[simp] theorem ok_state (s : σ) (a : α) (notes : List (Note R)) : (ok s a notes).state = s := rfl

@[simp] theorem ok_result (s : σ) (a : α) (notes : List (Note R)) :
    (ok s a notes).result = .ok a := rfl

@[simp] theorem fail_state (s : σ) (why : Fault R) (notes : List (Note R)) :
    (fail s why notes : Outcome R σ α).state = s := rfl

@[simp] theorem fail_result (s : σ) (why : Fault R) (notes : List (Note R)) :
    (fail s why notes : Outcome R σ α).result = .error why := rfl

@[simp] theorem within_state (o : Outcome R τ α) (put : τ → σ) :
    (o.within put).state = put o.state := rfl

@[simp] theorem within_result (o : Outcome R τ α) (put : τ → σ) :
    (o.within put).result = o.result := rfl

theorem andThen_after_ok {o : Outcome R σ α} {a : α} (first : o.result = .ok a)
    (next : σ → α → Outcome R σ β) :
    (o.andThen next).state = (next o.state a).state ∧
      (o.andThen next).result = (next o.state a).result := by
  simp [andThen, first]

theorem andThen_after_error {o : Outcome R σ α} {why : Fault R} (first : o.result = .error why)
    (next : σ → α → Outcome R σ β) :
    (o.andThen next).state = o.state ∧ (o.andThen next).result = .error why := by
  simp [andThen, first]

theorem andThen_assoc {γ : Type} (o : Outcome R σ α) (next : σ → α → Outcome R σ β)
    (last : σ → β → Outcome R σ γ) :
    (o.andThen next).andThen last = o.andThen fun s a => (next s a).andThen last := by
  unfold andThen
  cases o.result with
  | error why => rfl
  | ok a => cases h : (next o.state a).result <;> simp [h]

theorem andThen_leads (P : σ → Except (Fault R) β → Prop) {o : Outcome R σ α} {a : α}
    {next : σ → α → Outcome R σ β} (first : o.result = .ok a)
    (second : P (next o.state a).state (next o.state a).result) :
    P (o.andThen next).state (o.andThen next).result := by
  obtain ⟨state, result⟩ := andThen_after_ok first next
  rwa [state, result]

theorem andThen_succeeds {o : Outcome R σ α} {next : σ → α → Outcome R σ β} {b : β}
    (both : (o.andThen next).result = .ok b) :
    ∃ a, o.result = .ok a ∧ (next o.state a).result = .ok b ∧
      (o.andThen next).state = (next o.state a).state := by
  cases first : o.result with
  | error why =>
    rw [(andThen_after_error first next).2] at both
    cases both
  | ok a =>
    have parts := andThen_after_ok first next
    exact ⟨a, rfl, parts.2 ▸ both, parts.1⟩

theorem andThen_fails {o : Outcome R σ α} {next : σ → α → Outcome R σ β} {why : Fault R}
    (sure : ∀ s a, ∃ b, (next s a).result = .ok b) (failed : (o.andThen next).result = .error why) :
    o.result = .error why ∧ (o.andThen next).state = o.state := by
  cases first : o.result with
  | error other =>
    obtain ⟨state, result⟩ := andThen_after_error first next
    cases result.symm.trans failed
    exact ⟨rfl, state⟩
  | ok a =>
    obtain ⟨b, done⟩ := sure o.state a
    rw [(andThen_after_ok first next).2, done] at failed
    cases failed

theorem andThen_keeps (P : σ → Prop) {o : Outcome R σ α} {next : σ → α → Outcome R σ β}
    (first : P o.state) (second : ∀ a, P (next o.state a).state) : P (o.andThen next).state := by
  cases h : o.result with
  | error why => rw [(andThen_after_error h next).1]; exact first
  | ok a => rw [(andThen_after_ok h next).1]; exact second a

theorem repeated_after_ok [Add R] (step : R → σ → Outcome R σ α) {now : R} {s : σ} {a : α}
    (first : (step now s).result = .ok a) (dt : R) (n : Nat) :
    (repeated step dt (n + 1) now s).2.state =
        (repeated step dt n (now + dt) (step now s).state).2.state ∧
      (repeated step dt (n + 1) now s).2.result =
        (repeated step dt n (now + dt) (step now s).state).2.result.map (a :: ·) := by
  rw [repeated, first]
  exact ⟨rfl, rfl⟩

end Quadruped.Outcome
