/-!
# Sets of characters

Properties of characters that a standard gives by tables are kept as sets of code points. A set
is the list of its maximal intervals, in increasing order, both ends included. Characters below
`0x80` are decided by a rule in the module that owns the property, so a fact about one of them
never has to look at a table.
-/

namespace SwiftPlan.Text

/-- A set of code points, as a list of closed intervals. -/
structure CodeSet where
  intervals : List (Nat × Nat)

/-- Whether the code point of `c` lies in one of the intervals. -/
def CodeSet.contains (set : CodeSet) (c : Char) : Bool :=
  set.intervals.any fun (low, high) => low ≤ c.toNat && c.toNat ≤ high

end SwiftPlan.Text
