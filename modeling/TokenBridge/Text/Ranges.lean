/-!
# Character ranges

Sets of characters given as closed ranges of code points, the form in which a property of the
character standard is tabulated.
-/

namespace TokenBridge.Text

/-- Whether the code point of `c` lies in one of the closed ranges. -/
def inRanges (ranges : List (Nat × Nat)) (c : Char) : Bool :=
  ranges.any fun range => decide (range.1 ≤ c.toNat) && decide (c.toNat ≤ range.2)

end TokenBridge.Text
