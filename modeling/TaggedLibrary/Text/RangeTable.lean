/-!
Sets of characters, given by their code points.
-/

namespace TaggedLibrary

/-- Inclusive ranges of code points in rising order. -/
abbrev RangeTable := Array (Nat × Nat)

namespace RangeTable

/-- Bisects a table between `low` and `high` for the range that could hold `n`. -/
def bisect (table : RangeTable) (n : Nat) : Nat → Nat → Nat → Bool
  | 0, _, _ => false
  | fuel + 1, low, high =>
    if low < high then
      let middle := (low + high) / 2
      match table[middle]? with
      | none => false
      | some (first, last) =>
        if n < first then bisect table n fuel low middle
        else if last < n then bisect table n fuel (middle + 1) high
        else true
    else false

def contains (table : RangeTable) (c : Char) : Bool :=
  table.bisect c.toNat table.size 0 table.size

end RangeTable

end TaggedLibrary
