/-! Sets of characters as ranges of code points in rising order, searched by halving. -/

namespace LC3

structure CharSet where
  ranges : Array (Nat × Nat)

namespace CharSet

/-- Whether one of the ranges from place `low` to before place `high` holds `n`. -/
def search (ranges : Array (Nat × Nat)) (n low high : Nat) : Bool :=
  if low < high then
    let middle := (low + high) / 2
    match ranges[middle]? with
    | some (first, last) =>
      if n < first then search ranges n low middle
      else if last < n then search ranges n (middle + 1) high
      else true
    | none => false
  else false
termination_by high - low

def has (s : CharSet) (c : Char) : Bool := search s.ranges c.toNat 0 s.ranges.size

end CharSet

end LC3
