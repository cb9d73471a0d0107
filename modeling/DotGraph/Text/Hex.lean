/-!
# Hexadecimal digits
-/

namespace DotGraph.Text

/-- The last `width` digits of a number in base sixteen, in lower case. -/
def hexDigits : Nat → Nat → List Char
  | 0, _ => []
  | width + 1, n => hexDigits width (n / 16) ++ [Nat.digitChar (n % 16)]

end DotGraph.Text
