/-!
# Sets of characters given by code ranges

A property of the Unicode standard is a list of closed ranges of code points.
-/

namespace Wayfinder.Text

/-- Closed ranges of code points. -/
abbrev CodeRanges := Array (Nat × Nat)

/-- Whether a character lies in one of the ranges. -/
def CodeRanges.has (r : CodeRanges) (c : Char) : Bool :=
  r.any fun (first, last) => first ≤ c.toNat && c.toNat ≤ last

theorem CodeRanges.has_eq_any (r : CodeRanges) (c : Char) :
    r.has c = r.toList.any fun (first, last) => first ≤ c.toNat && c.toNat ≤ last := by
  rw [has, ← Array.any_toList]

end Wayfinder.Text
