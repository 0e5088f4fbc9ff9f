/-!
# Character sets by their boundaries

A set of code points is written as the sorted list of the points where
membership changes: the first boundary enters the set, the second leaves it,
and so on. A code point belongs exactly when an odd number of boundaries lies
at or below it.
-/

namespace RowPayload.Text

/-- The boundaries of a set of code points, in increasing order. -/
structure CharSet where
  boundaries : List Nat

namespace CharSet

/-- Membership is the parity of the boundaries at or below the code point. -/
def contains (set : CharSet) (c : Char) : Bool :=
  set.boundaries.countP (· ≤ c.toNat) % 2 == 1

end CharSet

end RowPayload.Text
