/-! Sets of code points given as a list of inclusive ranges. -/

namespace VirtualDisplay.Text

def inRanges (table : List (Nat × Nat)) (c : Char) : Bool :=
  table.any fun r => r.1 ≤ c.toNat && c.toNat ≤ r.2

end VirtualDisplay.Text
