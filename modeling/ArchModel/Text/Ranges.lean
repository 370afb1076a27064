/-!
# Classes of characters given by ranges

A class of characters beyond ASCII is written as the ascending list of code points at which
membership changes, starting outside the class. A code point is in the class when an odd number
of these boundaries is at most as large (`insideBoundaries`).
-/

namespace ArchModel.Text

/-- Membership in the class whose boundaries are `boundaries`, an ascending array. -/
def insideBoundaries (boundaries : Array Nat) (n : Nat) : Bool :=
  boundaries.countP (fun b => b ≤ n) % 2 == 1

end ArchModel.Text
