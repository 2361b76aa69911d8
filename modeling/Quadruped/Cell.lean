/-!
A single value that several tasks share. Every operation is one indivisible step.
-/
namespace Quadruped

structure Cell (α : Type) where
  value : α
deriving DecidableEq, Repr

namespace Cell

variable {α : Type}

def set (_ : Cell α) (v : α) : Cell α := ⟨v⟩

def swap (c : Cell α) (v : α) : Cell α × α := (⟨v⟩, c.value)

def compareAndSet [BEq α] (c : Cell α) (expected v : α) : Cell α × Bool :=
  if c.value == expected then (⟨v⟩, true) else (c, false)

end Cell
end Quadruped
