/-!
Membership in a set of characters given as ascending ranges of code points.
-/

namespace JoinEngine.Text

/-- Whether a code point lies in one of the ranges, ends included, searching the part of the
table from `low` below `high` by halving. -/
def inRangesBetween (table : Array (Nat × Nat)) (code : Nat) : Nat → Nat → Nat → Bool
  | 0, _, _ => false
  | fuel + 1, low, high =>
    if high ≤ low then false
    else
      let middle := (low + high) / 2
      match table[middle]? with
      | none => false
      | some (first, last) =>
        if code < first then inRangesBetween table code fuel low middle
        else if last < code then inRangesBetween table code fuel (middle + 1) high
        else true

def inRanges (table : Array (Nat × Nat)) (c : Char) : Bool :=
  inRangesBetween table c.toNat (table.size.log2 + 1) 0 table.size

end JoinEngine.Text
