/-!
Sets of characters as ranges of code points.
-/
namespace Quadruped.Text

def inRanges (ranges : List (Nat × Nat)) (c : Char) : Bool :=
  ranges.any fun r => r.1 ≤ c.toNat && c.toNat ≤ r.2

/-- Every `stride`-th code point from `first` to `last` maps to the one `shift` further on. -/
structure ShiftRange where
  first : Nat
  last : Nat
  stride : Nat
  shift : Int
deriving DecidableEq, Repr

def ShiftRange.ofRow (r : Nat × Nat × Nat × Int) : ShiftRange := ⟨r.1, r.2.1, r.2.2.1, r.2.2.2⟩

def ShiftRange.holds (r : ShiftRange) (c : Char) : Bool :=
  r.first ≤ c.toNat && c.toNat ≤ r.last && (c.toNat - r.first) % r.stride == 0

def ShiftRange.image (r : ShiftRange) (c : Char) : Char :=
  Char.ofNat ((c.toNat : Int) + r.shift).toNat

def shifted (rows : List (Nat × Nat × Nat × Int)) (c : Char) : Char :=
  match (rows.map ShiftRange.ofRow).find? (·.holds c) with
  | some r => r.image c
  | none => c

end Quadruped.Text
