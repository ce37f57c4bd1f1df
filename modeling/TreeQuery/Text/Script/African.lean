import TreeQuery.Text.Script.Basic

/-!
# African scripts

The scripts of Africa, hieroglyphs included.
-/

namespace TreeQuery.Text.Script

/-- The script Adlam. -/
def adlam : Script where
  names := ["Adlm", "Adlam"]
  characters := { changes := [
    125184, 125260, 125264, 125274, 125278, 125280] }
  borrowed := { changes := [
    1567, 1568, 1600, 1601, 8271, 8272, 11841, 11842] }

/-- The script Bamum. -/
def bamum : Script where
  names := ["Bamu", "Bamum"]
  characters := { changes := [
    42656, 42744, 92160, 92729] }

/-- The script Bassa Vah. -/
def bassaVah : Script where
  names := ["Bass", "Bassa_Vah"]
  characters := { changes := [
    92880, 92910, 92912, 92918] }

/-- The script Coptic. -/
def coptic : Script where
  names := ["Copt", "Coptic", "Qaac"]
  characters := { changes := [
    994, 1008, 11392, 11508, 11513, 11520] }
  borrowed := { changes := [
    183, 184, 768, 769, 772, 774, 775, 776, 884, 886, 11799, 11800, 66272, 66300] }

/-- The script Egyptian Hieroglyphs. -/
def egyptianHieroglyphs : Script where
  names := ["Egyp", "Egyptian_Hieroglyphs"]
  characters := { changes := [
    77824, 78934, 78944, 82939] }

/-- The script Ethiopic. -/
def ethiopic : Script where
  names := ["Ethi", "Ethiopic"]
  characters := { changes := [
    4608, 4681, 4682, 4686, 4688, 4695, 4696, 4697, 4698, 4702, 4704, 4745, 4746, 4750, 4752,
    4785, 4786, 4790, 4792, 4799, 4800, 4801, 4802, 4806, 4808, 4823, 4824, 4881, 4882, 4886,
    4888, 4955, 4957, 4989, 4992, 5018, 11648, 11671, 11680, 11687, 11688, 11695, 11696, 11703,
    11704, 11711, 11712, 11719, 11720, 11727, 11728, 11735, 11736, 11743, 43777, 43783, 43785,
    43791, 43793, 43799, 43808, 43815, 43816, 43823, 124896, 124903, 124904, 124908, 124909,
    124911, 124912, 124927] }
  borrowed := { changes := [
    782, 783] }

/-- The script Garay. -/
def garay : Script where
  names := ["Gara", "Garay"]
  characters := { changes := [
    68928, 68966, 68969, 68998, 69006, 69008] }
  borrowed := { changes := [
    1548, 1549, 1563, 1564, 1567, 1568] }

/-- The script Medefaidrin. -/
def medefaidrin : Script where
  names := ["Medf", "Medefaidrin"]
  characters := { changes := [
    93760, 93851] }

/-- The script Mende Kikakui. -/
def mendeKikakui : Script where
  names := ["Mend", "Mende_Kikakui"]
  characters := { changes := [
    124928, 125125, 125127, 125143] }

/-- The script Meroitic Cursive. -/
def meroiticCursive : Script where
  names := ["Merc", "Meroitic_Cursive"]
  characters := { changes := [
    68000, 68024, 68028, 68048, 68050, 68096] }

/-- The script Meroitic Hieroglyphs. -/
def meroiticHieroglyphs : Script where
  names := ["Mero", "Meroitic_Hieroglyphs"]
  characters := { changes := [
    67968, 68000] }
  borrowed := { changes := [
    8285, 8286] }

/-- The script Nko. -/
def nko : Script where
  names := ["Nkoo", "Nko"]
  characters := { changes := [
    1984, 2043, 2045, 2048] }
  borrowed := { changes := [
    1548, 1549, 1563, 1564, 1567, 1568, 64830, 64832] }

/-- The script Osmanya. -/
def osmanya : Script where
  names := ["Osma", "Osmanya"]
  characters := { changes := [
    66688, 66718, 66720, 66730] }

/-- The script Tifinagh. -/
def tifinagh : Script where
  names := ["Tfng", "Tifinagh"]
  characters := { changes := [
    11568, 11624, 11631, 11633, 11647, 11648] }
  borrowed := { changes := [
    770, 771, 772, 773, 774, 778, 803, 804] }

/-- The script Vai. -/
def vai : Script where
  names := ["Vaii", "Vai"]
  characters := { changes := [
    42240, 42540] }

/-- All scripts of Africa, hieroglyphs included. -/
def african : List Script := [
  adlam, bamum, bassaVah, coptic, egyptianHieroglyphs, ethiopic, garay, medefaidrin,
  mendeKikakui, meroiticCursive, meroiticHieroglyphs, nko, osmanya, tifinagh, vai]

end TreeQuery.Text.Script
