/-!
A binary heap in an array: the children of place `i` are `2 * i + 1` and `2 * i + 2`. Items that are
out of order with each other, as with a deadline that is no number, are allowed: the moves below say
what comes first then. No move loses or doubles an item.
-/
namespace Quadruped.Heap

variable {α : Type} (before : α → α → Bool)

def parent (i : Nat) : Nat := (i - 1) / 2

def rise (a : Array α) (i : Nat) : Array α :=
  if h : 0 < i ∧ i < a.size then
    have hp : parent i < a.size := by unfold parent; omega
    if before a[i] a[parent i] then rise (a.swap i (parent i)) (parent i) else a
  else a
termination_by i
decreasing_by unfold parent; omega

/-- The child that is to take a place: the left one only if it comes before the right one. -/
def firstChild? (a : Array α) (i : Nat) : Option Nat :=
  if h : 2 * i + 2 < a.size then
    if before a[2 * i + 1] a[2 * i + 2] then some (2 * i + 1) else some (2 * i + 2)
  else if 2 * i + 1 < a.size then some (2 * i + 1)
  else none

theorem firstChild?_bounds {a : Array α} {i c : Nat} (h : firstChild? before a i = some c) :
    i < c ∧ c < a.size := by
  unfold firstChild? at h
  split at h
  · split at h <;> (cases h; omega)
  · split at h
    · cases h; omega
    · cases h

/-- The item at a place goes down to a leaf, whatever it is, and rises from there. -/
def settle (a : Array α) (i : Nat) : Array α :=
  match h : firstChild? before a i with
  | none => rise before a i
  | some c =>
    have _hc := firstChild?_bounds before h
    settle (a.swap i c (by omega) (by omega)) c
termination_by a.size - i
decreasing_by
  have _hc := firstChild?_bounds before h
  simp only [Array.size_swap]; omega

def push (a : Array α) (x : α) : Array α := rise before (a.push x) a.size

/-- Takes the first item out; the last one takes its place and settles. -/
def dropFirst (a : Array α) : Array α :=
  if h : 0 < a.size then settle before (a.swap 0 (a.size - 1)).pop 0 else a

theorem rise_perm (a : Array α) (i : Nat) : (rise before a i).Perm a := by
  fun_induction rise before a i with
  | case1 a i h hp hb ih => exact ih.trans (Array.swap_perm ..)
  | case2 => exact .refl _
  | case3 => exact .refl _

theorem settle_perm (a : Array α) (i : Nat) : (settle before a i).Perm a := by
  fun_induction settle before a i with
  | case1 a i h => exact rise_perm before a i
  | case2 a i c h hc ih => exact ih.trans (Array.swap_perm ..)

theorem push_perm (a : Array α) (x : α) : (push before a x).Perm (a.push x) := rise_perm ..

@[simp] theorem size_settle (a : Array α) (i : Nat) : (settle before a i).size = a.size :=
  (settle_perm before a i).size_eq

@[simp] theorem size_dropFirst (a : Array α) : (dropFirst before a).size = a.size - 1 := by
  unfold dropFirst
  split
  · simp
  · omega

def popWhile (fits : α → Bool) (a : Array α) : List α × Array α :=
  if h : 0 < a.size then
    if fits a[0] then
      let (out, rest) := popWhile fits (dropFirst before a)
      (a[0] :: out, rest)
    else ([], a)
  else ([], a)
termination_by a.size
decreasing_by simp; omega

end Quadruped.Heap
