/-!
# Tables of code points

The character classes of Unicode are written down as ascending lists of closed ranges.
-/

namespace ChatPad.Text

/-- Membership in a table of ranges that stand in ascending order: the search ends at the first
range that reaches `c` or starts beyond it. -/
def inRanges : List (Nat × Nat) → Nat → Bool
  | [], _ => false
  | (first, last) :: later, c =>
    if c < first then false else if c ≤ last then true else inRanges later c

end ChatPad.Text
