import TreeQuery.Text.CodePoints

/-!
# Scripts

A script has the characters that are its own, and borrows others that several scripts use.
-/

namespace TreeQuery.Text

/-- A script with its characters. -/
structure Script where
  /-- The four-letter code and the name, and an older code if there is one. -/
  names : List String
  /-- The characters that belong to this script and to no other. -/
  characters : CodePoints
  /-- The characters that this script uses although they are not its own. -/
  borrowed : CodePoints := CodePoints.empty

/-- The stroke that lengthens a letter, which several scripts with joined letters borrow. -/
def Script.tatweel : CodePoints := { changes := [1600, 1601] }

end TreeQuery.Text
