import TreeQuery.Text.Basic

/-!
# Hexadecimal digits

The digits `0` to `9` and the letters `a` to `f` in either case.
-/

namespace TreeQuery.Text

/-- The value of a hexadecimal digit. -/
def hexDigit? (c : Char) : Option Nat :=
  if c.isDigit then some (c.toNat - 48)
  else if 'a' ≤ c && c ≤ 'f' then some (c.toNat - 87)
  else if 'A' ≤ c && c ≤ 'F' then some (c.toNat - 55)
  else none

end TreeQuery.Text
