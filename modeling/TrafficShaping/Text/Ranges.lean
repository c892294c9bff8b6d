/-
Sets of characters as tables: closed ranges of code points in ascending
order. A character is looked up from the front, and the search ends at the
first range that lies beyond it.
-/

namespace TrafficShaping.Text

/-- Closed ranges of code points, in ascending order. -/
abbrev Ranges := List (Nat × Nat)

namespace Ranges

/-- Whether a code point lies in one of the ranges. -/
def holds (n : Nat) : Ranges → Bool
  | [] => false
  | (lo, hi) :: rest => if n < lo then false else n ≤ hi || holds n rest

end Ranges

/-- Whether a character lies in one of the ranges of a table. -/
def isIn (table : Ranges) (c : Char) : Bool := table.holds c.toNat

end TrafficShaping.Text
