import Mathlib.Tactic.Common

/-!
# Texts of characters

White space, as the language counts it, in texts given by their characters.

* `isSpace`: what `\s` matches; `trim`: a text without the white space at its ends.
-/

namespace KarsHotel.CharText

/-- The white space of the language. -/
def isSpace (c : Char) : Bool :=
  let n := c.toNat
  decide (9 ≤ n ∧ n ≤ 13) || decide (0x2000 ≤ n ∧ n ≤ 0x200A) ||
    [0x20, 0xA0, 0x1680, 0x2028, 0x2029, 0x202F, 0x205F, 0x3000, 0xFEFF].contains n

def trim (s : List Char) : List Char :=
  ((s.dropWhile isSpace).reverse.dropWhile isSpace).reverse

end KarsHotel.CharText
