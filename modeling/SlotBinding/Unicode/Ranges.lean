/-!
# Code point ranges

Character properties are kept as ascending lists of inclusive ranges.
-/

namespace SlotBinding.Unicode

/-- Ascending inclusive ranges of code points. -/
abbrev CodeRanges := List (Nat × Nat)

def CodeRanges.contains (ranges : CodeRanges) (code : Nat) : Bool :=
  ranges.any fun range => range.1 ≤ code && code ≤ range.2

end SlotBinding.Unicode
