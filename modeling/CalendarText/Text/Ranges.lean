import CalendarText.Text

/-! Classes of characters given by ranges of code points, both ends included. -/

namespace CalendarText

def inRanges (ranges : List (Nat × Nat)) (c : Char) : Bool :=
  ranges.any fun r => r.1 ≤ c.toNat && c.toNat ≤ r.2

end CalendarText
