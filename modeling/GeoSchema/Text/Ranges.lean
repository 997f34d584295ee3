/-!
# Ranges of code points

Tables of characters are lists of closed ranges, ascending and apart.
-/

namespace GeoSchema.Text

def inRanges (ranges : List (Nat × Nat)) (code : Nat) : Bool :=
  ranges.any fun r => r.1 ≤ code && code ≤ r.2

end GeoSchema.Text
