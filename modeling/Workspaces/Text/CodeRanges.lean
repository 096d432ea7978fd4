/-!
# Ranges of code points

A property of characters is listed as increasing ranges of code points, both
ends included.
-/

namespace Workspaces

abbrev CodeRanges := List (Nat × Nat)

def CodeRanges.contains (ranges : CodeRanges) (c : Char) : Bool :=
  ranges.any fun range => range.1 ≤ c.toNat && c.toNat ≤ range.2

end Workspaces
