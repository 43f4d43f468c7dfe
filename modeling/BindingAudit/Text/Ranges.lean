/-!
# Ranges of code points

A character class as the ranges of code points that are in it, in ascending order.  `inRanges`
looks a code point up by halving.
-/

namespace BindingAudit.Text

/-- The middle of a stretch of indices is one of them. -/
theorem middle_lt {low high size : Nat} (h : low < high ∧ high ≤ size) :
    (low + high) / 2 < size := by
  omega

/-- Whether a number lies in one of the ranges from index `low` up to, not including, `high`. -/
def inRangesBetween (ranges : Array (Nat × Nat)) (n low high : Nat) : Bool :=
  if h : low < high ∧ high ≤ ranges.size then
    let middle := (low + high) / 2
    have : middle < ranges.size := middle_lt h
    let (first, last) := ranges[middle]
    if n < first then inRangesBetween ranges n low middle
    else if last < n then inRangesBetween ranges n (middle + 1) high
    else true
  else false
termination_by high - low

/-- Whether a number lies in one of the ranges, which are in ascending order. -/
def inRanges (ranges : Array (Nat × Nat)) (n : Nat) : Bool :=
  inRangesBetween ranges n 0 ranges.size

end BindingAudit.Text
