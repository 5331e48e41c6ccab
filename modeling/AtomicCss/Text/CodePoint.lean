/-!
# Tables of code points

Membership of a code point in the range and run tables of this library.
-/

set_option autoImplicit false

namespace AtomicCss.Text

/-- Whether a code point lies in one of the inclusive ranges. -/
def inRanges (ranges : List (Nat × Nat)) (code : Nat) : Bool :=
  ranges.any fun range => range.1 ≤ code && code ≤ range.2

/-- Whether a code point is reached from the first one by steps, up to the last one. -/
def inRun (first last step code : Nat) : Bool :=
  first ≤ code && code ≤ last && (code - first) % step == 0

end AtomicCss.Text
