/-! Sets of characters given by ranges of code points. -/

namespace SchemaFold.Text

/-- Whether a character is in one of the ranges, whose ends belong to them. -/
def inRanges (ranges : List (Nat × Nat)) (c : Char) : Bool :=
  ranges.any fun (lo, hi) => lo ≤ c.toNat && c.toNat ≤ hi

end SchemaFold.Text
