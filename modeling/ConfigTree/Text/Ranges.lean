/-!
# Sets of characters as ranges

A property of characters is given as the closed ranges of code points that have
it, in increasing order, and looked up by halving.

## Main definitions

* `Ranges` — the table; `Ranges.has` — the look-up.
-/

namespace ConfigTree.Text

/-- Closed ranges of code points, in increasing order and apart from each other. -/
abbrev Ranges := Array (Nat × Nat)

/-- Whether `n` lies in one of the ranges at the positions from `lo` up to `hi`. -/
def Ranges.hasBetween (table : Ranges) (n lo hi : Nat) : Bool :=
  if lo < hi then
    let mid := (lo + hi) / 2
    match table[mid]? with
    | none => false
    | some (first, last) =>
      if n < first then hasBetween table n lo mid
      else if last < n then hasBetween table n (mid + 1) hi
      else true
  else false
termination_by hi - lo

/-- Whether the code point `n` lies in one of the ranges. -/
def Ranges.has (table : Ranges) (n : Nat) : Bool := table.hasBetween n 0 table.size

end ConfigTree.Text
