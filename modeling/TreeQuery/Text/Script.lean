import TreeQuery.Text.Script.African
import TreeQuery.Text.Script.American
import TreeQuery.Text.Script.CentralAsian
import TreeQuery.Text.Script.EastAsian
import TreeQuery.Text.Script.European
import TreeQuery.Text.Script.MiddleEastern
import TreeQuery.Text.Script.Shared
import TreeQuery.Text.Script.SouthAsian
import TreeQuery.Text.Script.SoutheastAsian

/-!
# All scripts

Every character has one script, or is common to many or inherited.  The extended view of a script
adds what it borrows, and takes from the common and the inherited characters those that some script
borrows.
-/

namespace TreeQuery.Text.Script

/-- The scripts that have characters of their own. -/
def proper : List Script :=
  european ++ middleEastern ++ african ++ southAsian ++ centralAsian ++ southeastAsian ++
  eastAsian ++ american ++ shared

/-- The scripts, and the two groups of characters that belong to none of them. -/
def scripts : List Script := proper ++ [common, inherited]

/-- The characters that some script borrows. -/
def borrowedBySome : CodePoints := CodePoints.unions (proper.map Script.borrowed)

/-- The characters that are used in the script, its own and those that it borrows.  What no script
owns counts as common or inherited only if no script borrows it. -/
def extended (script : Script) : CodePoints :=
  if script.names == common.names || script.names == inherited.names then
    script.characters.diff borrowedBySome
  else script.characters.union script.borrowed

end TreeQuery.Text.Script
