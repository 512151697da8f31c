/-! Character classes given by ranges of code points. -/

namespace IncludeGraph.Text

/-- Each range includes both of its ends. -/
def inRanges (ranges : List (Nat × Nat)) (c : Char) : Bool :=
  ranges.any fun range => range.1 ≤ c.toNat && c.toNat ≤ range.2

end IncludeGraph.Text
