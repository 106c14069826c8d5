/-!
# Code points — sets of characters by their bounds

A set of characters is given by the ascending list of the code points at which
membership changes, so a character is in the set when the number of bounds up
to it is odd.
-/

namespace RecordQuery

/-- The number of bounds up to a code point, counted between two places of
which the first is known to be enough and the second too many. -/
def countBounds (bounds : Array Nat) (n low high : Nat) : Nat :=
  if low < high then
    let middle := (low + high) / 2
    if bounds.getD middle 0 ≤ n then countBounds bounds n (middle + 1) high
    else countBounds bounds n low middle
  else low
termination_by high - low

/-- Whether a character is in the set with these bounds. -/
def inBounds (bounds : Array Nat) (c : Char) : Bool :=
  countBounds bounds c.toNat 0 bounds.size % 2 == 1

end RecordQuery
