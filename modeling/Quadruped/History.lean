/-!
The newest of a series, as many as there is room for: a new entry drives out the oldest of a history
that is full.
-/
namespace Quadruped

structure History (α : Type) where
  size : Nat
  /-- Newest first. -/
  kept : List α
  bounded : kept.length ≤ size
deriving DecidableEq, Repr

namespace History

variable {α : Type}

def empty (size : Nat) : History α := ⟨size, [], Nat.zero_le size⟩

def push (h : History α) (x : α) : History α :=
  ⟨h.size, (x :: h.kept).take h.size, List.length_take_le h.size _⟩

def pushAll (h : History α) (xs : List α) : History α := xs.foldl push h

def last? (h : History α) : Option α := h.kept.head?

/-- Oldest first. -/
def toList (h : History α) : List α := h.kept.reverse

@[simp] theorem pushAll_size (h : History α) (xs : List α) : (h.pushAll xs).size = h.size := by
  induction xs generalizing h with
  | nil => rfl
  | cons x xs ih => exact ih (h.push x)

theorem pushAll_snoc (h : History α) (xs : List α) (x : α) :
    h.pushAll (xs ++ [x]) = (h.pushAll xs).push x := List.foldl_append

theorem last?_push {h : History α} (room : 0 < h.size) (x : α) : (h.push x).last? = some x := by
  obtain ⟨n, eq⟩ := Nat.exists_eq_add_of_lt room
  simp [push, last?, eq]

theorem pushAll_kept (h : History α) (xs : List α) :
    (h.pushAll xs).kept = (xs.reverse ++ h.kept).take h.size := by
  induction xs generalizing h with
  | nil => exact (List.take_of_length_le h.bounded).symm
  | cons x xs ih =>
    rw [List.reverse_cons, List.append_assoc]
    refine (ih (h.push x)).trans ?_
    change (xs.reverse ++ (x :: h.kept).take h.size).take h.size = _
    simp [List.take_append, List.take_take]

/-- What has been pushed is what was driven out and, after it, what is kept. -/
theorem pushAll_newest (size : Nat) (xs : List α) :
    (∃ older, xs = older ++ ((empty size).pushAll xs).toList) ∧
      ((empty size).pushAll xs).toList.length = min xs.length size := by
  have newest : ((empty size).pushAll xs).toList = xs.drop (xs.length - size) := by
    rw [toList, pushAll_kept]
    change ((xs.reverse ++ []).take size).reverse = _
    rw [List.append_nil, List.take_reverse, List.reverse_reverse]
  refine ⟨⟨xs.take (xs.length - size), ?_⟩, ?_⟩
  · rw [newest, List.take_append_drop]
  · rw [newest, List.length_drop]
    omega

end History
end Quadruped
