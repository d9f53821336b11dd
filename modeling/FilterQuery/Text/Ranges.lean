/-!
# Ranges of code points

Membership in a table of closed ranges, as the Unicode character database lists its properties.
-/

namespace FilterQuery
namespace Text

/-- Whether a number lies in one of the closed ranges of an ascending table. -/
def inRanges : List (Nat × Nat) → Nat → Bool
  | [], _ => false
  | (low, high) :: rest, n =>
      if n < low then false
      else if n ≤ high then true
      else inRanges rest n

end Text
end FilterQuery
