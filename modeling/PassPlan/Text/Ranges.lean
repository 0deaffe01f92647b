/-!
Sets of code points given as sorted, disjoint closed ranges, searched by halving.
-/
namespace PassPlan.Text

/-- Searches the ranges with indices in [lo, hi), the step count bounded by fuel. -/
def rangeSearch (rs : Array (Nat × Nat)) (n lo hi : Nat) : Nat → Bool
  | 0 => false
  | fuel + 1 =>
    if lo < hi then
      let mid := (lo + hi) / 2
      match rs[mid]? with
      | some r =>
        if n < r.1 then rangeSearch rs n lo mid fuel
        else if r.2 < n then rangeSearch rs n (mid + 1) hi fuel
        else true
      | none => false
    else false

/-- Whether a code point lies in one of the ranges. -/
def inRanges (rs : Array (Nat × Nat)) (n : Nat) : Bool := rangeSearch rs n 0 rs.size rs.size

end PassPlan.Text
