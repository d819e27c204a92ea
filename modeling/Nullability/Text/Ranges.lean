import Nullability.Text.Letter

/-!
# Tables of code points

Character classes that follow no simple rule are given as lists of closed ranges.
-/

namespace Nullability
namespace Text

/-- Whether a code point lies in one of the ranges. -/
def inRanges (ranges : List (Nat × Nat)) (n : Nat) : Bool :=
  ranges.any fun (first, last) => first ≤ n && n ≤ last

end Text
end Nullability
