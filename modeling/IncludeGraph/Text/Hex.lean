/-! Fixed-width hexadecimal numbers in lower case. -/

namespace IncludeGraph.Text

/-- The last `width` hexadecimal digits of a number. -/
def hex : Nat → Nat → List Char
  | 0, _ => []
  | width + 1, n => hex width (n / 16) ++ [Nat.digitChar (n % 16)]

end IncludeGraph.Text
