/-!
# Sets of characters given by ranges of code points

A Unicode property is a finite union of intervals of code points, so it is kept as the list of
those intervals.

## Main definitions

* `CharSet`: a union of closed intervals of code points.
* `CharSet.contains`: membership.
-/

namespace ClosureBridge

/-- A union of closed intervals of code points. -/
structure CharSet where
  /-- The intervals, each by its first and its last code point. -/
  ranges : Array (Nat × Nat)

namespace CharSet

/-- A character is in the set when one of the intervals holds its code point. -/
def contains (s : CharSet) (c : Char) : Bool :=
  s.ranges.any fun r => r.1 ≤ c.toNat && c.toNat ≤ r.2

end CharSet

end ClosureBridge
