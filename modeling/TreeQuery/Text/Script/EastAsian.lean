import TreeQuery.Text.Script.Basic

/-!
# East Asian scripts

The scripts of China, Japan and Korea.
-/

namespace TreeQuery.Text.Script

/-- The script Bopomofo. -/
def bopomofo : Script where
  names := ["Bopo", "Bopomofo"]
  characters := { changes := [
    746, 748, 12549, 12592, 12704, 12736] }
  borrowed := { changes := [
    711, 712, 713, 716, 729, 730, 12289, 12292, 12296, 12306, 12307, 12320, 12330, 12334, 12336,
    12337, 12343, 12344, 12539, 12540, 65093, 65095, 65377, 65382] }

/-- The script Hangul. -/
def hangul : Script where
  names := ["Hang", "Hangul"]
  characters := { changes := [
    4352, 4608, 12334, 12336, 12593, 12687, 12800, 12831, 12896, 12927, 43360, 43389, 44032,
    55204, 55216, 55239, 55243, 55292, 65440, 65471, 65474, 65480, 65482, 65488, 65490, 65496,
    65498, 65501] }
  borrowed := { changes := [
    12289, 12292, 12296, 12306, 12307, 12320, 12336, 12337, 12343, 12344, 12539, 12540, 65093,
    65095, 65377, 65382] }

/-- The script Han. -/
def han : Script where
  names := ["Hani", "Han"]
  characters := { changes := [
    11904, 11930, 11931, 12020, 12032, 12246, 12293, 12294, 12295, 12296, 12321, 12330, 12344,
    12348, 13312, 19904, 19968, 40960, 63744, 64110, 64112, 64218, 94178, 94180, 94192, 94194,
    131072, 173792, 173824, 177978, 177984, 178206, 178208, 183970, 183984, 191457, 191472,
    192094, 194560, 195102, 196608, 201547, 201552, 205744] }
  borrowed := { changes := [
    183, 184, 12272, 12288, 12289, 12292, 12294, 12295, 12296, 12306, 12307, 12320, 12330,
    12334, 12336, 12337, 12343, 12344, 12348, 12352, 12539, 12540, 12688, 12704, 12736, 12774,
    12783, 12784, 12832, 12872, 12928, 12977, 12992, 13004, 13055, 13056, 13144, 13169, 13179,
    13184, 13280, 13311, 42752, 42760, 65093, 65095, 65377, 65382, 119648, 119666, 127568,
    127570] }

/-- The script Hiragana. -/
def hiragana : Script where
  names := ["Hira", "Hiragana"]
  characters := { changes := [
    12353, 12439, 12445, 12448, 110593, 110880, 110898, 110899, 110928, 110931, 127488, 127489] }
  borrowed := { changes := [
    12289, 12292, 12296, 12306, 12307, 12320, 12336, 12342, 12343, 12344, 12348, 12350, 12441,
    12445, 12448, 12449, 12539, 12541, 65093, 65095, 65377, 65382, 65392, 65393, 65438, 65440] }

/-- The script Katakana. -/
def katakana : Script where
  names := ["Kana", "Katakana"]
  characters := { changes := [
    12449, 12539, 12541, 12544, 12784, 12800, 13008, 13055, 13056, 13144, 65382, 65392, 65393,
    65438, 110576, 110580, 110581, 110588, 110589, 110591, 110592, 110593, 110880, 110883,
    110933, 110934, 110948, 110952] }
  borrowed := { changes := [
    773, 774, 803, 804, 12289, 12292, 12296, 12306, 12307, 12320, 12336, 12342, 12343, 12344,
    12348, 12350, 12441, 12445, 12448, 12449, 12539, 12541, 65093, 65095, 65377, 65382, 65392,
    65393, 65438, 65440] }

/-- The script Khitan Small Script. -/
def khitanSmallScript : Script where
  names := ["Kits", "Khitan_Small_Script"]
  characters := { changes := [
    94180, 94181, 101120, 101590, 101631, 101632] }

/-- The script Lisu. -/
def lisu : Script where
  names := ["Lisu"]
  characters := { changes := [
    42192, 42240, 73648, 73649] }
  borrowed := { changes := [
    700, 701, 717, 718, 12298, 12300] }

/-- The script Miao. -/
def miao : Script where
  names := ["Plrd", "Miao"]
  characters := { changes := [
    93952, 94027, 94031, 94088, 94095, 94112] }

/-- The script Nushu. -/
def nushu : Script where
  names := ["Nshu", "Nushu"]
  characters := { changes := [
    94177, 94178, 110960, 111356] }

/-- The script Tangut. -/
def tangut : Script where
  names := ["Tang", "Tangut"]
  characters := { changes := [
    94176, 94177, 94208, 100344, 100352, 101120, 101632, 101641] }
  borrowed := { changes := [
    12272, 12288, 12783, 12784] }

/-- The script Yi. -/
def yi : Script where
  names := ["Yiii", "Yi"]
  characters := { changes := [
    40960, 42125, 42128, 42183] }
  borrowed := { changes := [
    12289, 12291, 12296, 12306, 12308, 12316, 12539, 12540, 65377, 65382] }

/-- All scripts of China, Japan and Korea. -/
def eastAsian : List Script := [
  bopomofo, hangul, han, hiragana, katakana, khitanSmallScript, lisu, miao, nushu, tangut, yi]

end TreeQuery.Text.Script
