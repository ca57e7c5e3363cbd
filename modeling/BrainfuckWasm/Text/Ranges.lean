/-!
# Ranges of code points

Properties of characters are listed as ranges of code points, each by its first and its last one.
-/

namespace BrainfuckWasm.Text

/-- Whether a code point lies in one of the ranges. -/
def inRanges (ranges : List (Nat × Nat)) (n : Nat) : Bool :=
  ranges.any fun range => range.1 ≤ n && n ≤ range.2

end BrainfuckWasm.Text
