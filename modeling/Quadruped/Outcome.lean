import Quadruped.Note

/-!
What an operation leaves behind: a state, also where it fails, its result, and its notes.
-/
namespace Quadruped

structure Outcome (R σ α : Type) where
  state : σ
  result : Except (Fault R) α
  notes : List (Note R)

namespace Outcome

variable {R σ τ α β : Type}

def ok (s : σ) (a : α) (notes : List (Note R)) : Outcome R σ α := ⟨s, .ok a, notes⟩

def fail (s : σ) (why : Fault R) (notes : List (Note R)) : Outcome R σ α := ⟨s, .error why, notes⟩

/-- A second operation, on the state that the first left, unless the first failed. -/
def andThen (o : Outcome R σ α) (next : σ → α → Outcome R σ β) : Outcome R σ β :=
  match o.result with
  | .error why => ⟨o.state, .error why, o.notes⟩
  | .ok a =>
    let p := next o.state a
    ⟨p.state, p.result, o.notes ++ p.notes⟩

def within (o : Outcome R τ α) (put : τ → σ) : Outcome R σ α := ⟨put o.state, o.result, o.notes⟩

/-- The operation so many times, the clock moving on after each; a failure ends them at once. -/
def repeated [Add R] (step : R → σ → Outcome R σ α) (dt : R) :
    Nat → R → σ → R × Outcome R σ (List α)
  | 0, now, s => (now, ok s [] [])
  | n + 1, now, s =>
    let o := step now s
    match o.result with
    | .error why => (now, fail o.state why o.notes)
    | .ok a =>
      let (now, p) := repeated step dt n (now + dt) o.state
      (now, ⟨p.state, p.result.map (a :: ·), o.notes ++ p.notes⟩)

end Outcome
end Quadruped
