import TreeQuery.Text.Script.Basic

/-!
# American scripts

The scripts of North America.
-/

namespace TreeQuery.Text.Script

/-- The script Canadian Aboriginal. -/
def canadianAboriginal : Script where
  names := ["Cans", "Canadian_Aboriginal"]
  characters := { changes := [
    5120, 5760, 6320, 6390, 72368, 72384] }

/-- The script Cherokee. -/
def cherokee : Script where
  names := ["Cher", "Cherokee"]
  characters := { changes := [
    5024, 5110, 5112, 5118, 43888, 43968] }
  borrowed := { changes := [
    768, 771, 772, 773, 779, 781, 803, 805, 816, 818] }

/-- The script Deseret. -/
def deseret : Script where
  names := ["Dsrt", "Deseret"]
  characters := { changes := [
    66560, 66640] }

/-- The script Osage. -/
def osage : Script where
  names := ["Osge", "Osage"]
  characters := { changes := [
    66736, 66772, 66776, 66812] }
  borrowed := { changes := [
    769, 770, 772, 773, 779, 780, 856, 857] }

/-- All scripts of North America. -/
def american : List Script := [
  canadianAboriginal, cherokee, deseret, osage]

end TreeQuery.Text.Script
