/-!
# Ranges of code points

A property of characters is given by the code points that have it, as a list of closed ranges.
-/
namespace ReleaseStamp.Text

/-- The code points from `first` to `last`, both included. -/
structure CodeRange where
  first : Nat
  last : Nat

namespace CodeRange

def contains (r : CodeRange) (c : Char) : Bool :=
  decide (r.first ≤ c.toNat) && decide (c.toNat ≤ r.last)

/-- Whether no range is empty and each ends short of the next one's first point by at least one,
so that no shorter list describes the same points. -/
def ascend : List CodeRange → Bool
  | a :: b :: rest =>
    decide (a.first ≤ a.last) && decide (a.last + 1 < b.first) && ascend (b :: rest)
  | [a] => decide (a.first ≤ a.last)
  | [] => true

end CodeRange
end ReleaseStamp.Text
