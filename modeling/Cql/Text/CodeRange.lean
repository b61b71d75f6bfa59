/-!
# Ranges of code points

A Unicode property is held as a list of closed ranges of code points, and a character has the
property when its code point lies in one of them.
-/

namespace Cql.Text

/-- The code points from the first component to the second, both included. -/
abbrev CodeRange := Nat × Nat

def inRanges (ranges : List CodeRange) (c : Char) : Bool :=
  ranges.any fun range => range.1 ≤ c.toNat && c.toNat ≤ range.2

end Cql.Text
