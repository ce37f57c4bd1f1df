import TreeQuery.Text.Script.Basic

/-!
# European scripts

The scripts of Europe and its neighbours, ancient ones included.
-/

namespace TreeQuery.Text.Script

/-- The script Latin. -/
def latin : Script where
  names := ["Latn", "Latin"]
  characters := { changes := [
    65, 91, 97, 123, 170, 171, 186, 187, 192, 215, 216, 247, 248, 697, 736, 741, 7424, 7462,
    7468, 7517, 7522, 7526, 7531, 7544, 7545, 7615, 7680, 7936, 8305, 8306, 8319, 8320, 8336,
    8349, 8490, 8492, 8498, 8499, 8526, 8527, 8544, 8585, 11360, 11392, 42786, 42888, 42891,
    42958, 42960, 42962, 42963, 42964, 42965, 42973, 42994, 43008, 43824, 43867, 43868, 43877,
    43878, 43882, 64256, 64263, 65313, 65339, 65345, 65371, 67456, 67462, 67463, 67505, 67506,
    67515, 122624, 122655, 122661, 122667] }
  borrowed := { changes := [
    183, 184, 700, 701, 711, 712, 713, 716, 717, 718, 727, 728, 729, 730, 768, 783, 784, 786,
    787, 788, 803, 806, 813, 815, 816, 818, 856, 857, 862, 863, 867, 880, 1157, 1159, 2385,
    2387, 4347, 4348, 7672, 7673, 8239, 8240, 8432, 8433, 11799, 11800, 42752, 42760, 43310,
    43311] }

/-- The script Greek. -/
def greek : Script where
  names := ["Grek", "Greek"]
  characters := { changes := [
    880, 884, 885, 888, 890, 894, 895, 896, 900, 901, 902, 903, 904, 907, 908, 909, 910, 930,
    931, 994, 1008, 1024, 7462, 7467, 7517, 7522, 7526, 7531, 7615, 7616, 7936, 7958, 7960,
    7966, 7968, 8006, 8008, 8014, 8016, 8024, 8025, 8026, 8027, 8028, 8029, 8030, 8031, 8062,
    8064, 8117, 8118, 8133, 8134, 8148, 8150, 8156, 8157, 8176, 8178, 8181, 8182, 8191, 8486,
    8487, 43877, 43878, 65856, 65935, 65952, 65953, 119296, 119366] }
  borrowed := { changes := [
    183, 184, 768, 770, 772, 773, 774, 775, 776, 777, 787, 788, 834, 835, 837, 838, 884, 885,
    7616, 7618, 8285, 8286] }

/-- The script Cyrillic. -/
def cyrillic : Script where
  names := ["Cyrl", "Cyrillic"]
  characters := { changes := [
    1024, 1157, 1159, 1328, 7296, 7307, 7467, 7468, 7544, 7545, 11744, 11776, 42560, 42656,
    65070, 65072, 122928, 122990, 123023, 123024] }
  borrowed := { changes := [
    700, 701, 768, 771, 772, 773, 774, 775, 776, 777, 779, 780, 785, 786, 1157, 1159, 7672,
    7673, 11843, 11844] }

/-- The script Georgian. -/
def georgian : Script where
  names := ["Geor", "Georgian"]
  characters := { changes := [
    4256, 4294, 4295, 4296, 4301, 4302, 4304, 4347, 4348, 4352, 7312, 7355, 7357, 7360, 11520,
    11558, 11559, 11560, 11565, 11566] }
  borrowed := { changes := [
    183, 184, 1417, 1418, 4347, 4348, 8282, 8283, 11825, 11826] }

/-- The script Armenian. -/
def armenian : Script where
  names := ["Armn", "Armenian"]
  characters := { changes := [
    1329, 1367, 1369, 1419, 1421, 1424, 64275, 64280] }
  borrowed := { changes := [
    776, 777] }

/-- The script Glagolitic. -/
def glagolitic : Script where
  names := ["Glag", "Glagolitic"]
  characters := { changes := [
    11264, 11360, 122880, 122887, 122888, 122905, 122907, 122914, 122915, 122917, 122918, 122923] }
  borrowed := { changes := [
    183, 184, 771, 772, 773, 774, 1156, 1157, 1159, 1160, 1417, 1418, 4347, 4348, 8282, 8283,
    11843, 11844, 42607, 42608] }

/-- The script Gothic. -/
def gothic : Script where
  names := ["Goth", "Gothic"]
  characters := { changes := [
    66352, 66379] }
  borrowed := { changes := [
    183, 184, 772, 774, 776, 777, 817, 818] }

/-- The script Old Italic. -/
def oldItalic : Script where
  names := ["Ital", "Old_Italic"]
  characters := { changes := [
    66304, 66340, 66349, 66352] }

/-- The script Ogham. -/
def ogham : Script where
  names := ["Ogam", "Ogham"]
  characters := { changes := [
    5760, 5789] }

/-- The script Runic. -/
def runic : Script where
  names := ["Runr", "Runic"]
  characters := { changes := [
    5792, 5867, 5870, 5881] }
  borrowed := { changes := [
    5867, 5870] }

/-- The script Old Permic. -/
def oldPermic : Script where
  names := ["Perm", "Old_Permic"]
  characters := { changes := [
    66384, 66427] }
  borrowed := { changes := [
    183, 184, 768, 769, 774, 777, 787, 788, 1155, 1156] }

/-- The script Old Hungarian. -/
def oldHungarian : Script where
  names := ["Hung", "Old_Hungarian"]
  characters := { changes := [
    68736, 68787, 68800, 68851, 68858, 68864] }
  borrowed := { changes := [
    8282, 8283, 8285, 8286, 11825, 11826, 11841, 11842] }

/-- The script Elbasan. -/
def elbasan : Script where
  names := ["Elba", "Elbasan"]
  characters := { changes := [
    66816, 66856] }
  borrowed := { changes := [
    183, 184, 773, 774] }

/-- The script Caucasian Albanian. -/
def caucasianAlbanian : Script where
  names := ["Aghb", "Caucasian_Albanian"]
  characters := { changes := [
    66864, 66916, 66927, 66928] }
  borrowed := { changes := [
    772, 773, 817, 818, 862, 863] }

/-- The script Vithkuqi. -/
def vithkuqi : Script where
  names := ["Vith", "Vithkuqi"]
  characters := { changes := [
    66928, 66939, 66940, 66955, 66956, 66963, 66964, 66966, 66967, 66978, 66979, 66994, 66995,
    67002, 67003, 67005] }

/-- The script Todhri. -/
def todhri : Script where
  names := ["Todr", "Todhri"]
  characters := { changes := [
    67008, 67060] }
  borrowed := { changes := [
    769, 770, 772, 773, 775, 776, 785, 786, 787, 788, 862, 863] }

/-- The script Shavian. -/
def shavian : Script where
  names := ["Shaw", "Shavian"]
  characters := { changes := [
    66640, 66688] }
  borrowed := { changes := [
    183, 184] }

/-- The script Lycian. -/
def lycian : Script where
  names := ["Lyci", "Lycian"]
  characters := { changes := [
    66176, 66205] }
  borrowed := { changes := [
    8282, 8283] }

/-- The script Lydian. -/
def lydian : Script where
  names := ["Lydi", "Lydian"]
  characters := { changes := [
    67872, 67898, 67903, 67904] }
  borrowed := { changes := [
    183, 184, 11825, 11826] }

/-- The script Carian. -/
def carian : Script where
  names := ["Cari", "Carian"]
  characters := { changes := [
    66208, 66257] }
  borrowed := { changes := [
    183, 184, 8282, 8283, 8285, 8286, 11825, 11826] }

/-- The script Linear A. -/
def linearA : Script where
  names := ["Lina", "Linear_A"]
  characters := { changes := [
    67072, 67383, 67392, 67414, 67424, 67432] }
  borrowed := { changes := [
    65799, 65844] }

/-- The script Linear B. -/
def linearB : Script where
  names := ["Linb", "Linear_B"]
  characters := { changes := [
    65536, 65548, 65549, 65575, 65576, 65595, 65596, 65598, 65599, 65614, 65616, 65630, 65664,
    65787] }
  borrowed := { changes := [
    65792, 65795, 65799, 65844, 65847, 65856] }

/-- The script Cypriot. -/
def cypriot : Script where
  names := ["Cprt", "Cypriot"]
  characters := { changes := [
    67584, 67590, 67592, 67593, 67594, 67638, 67639, 67641, 67644, 67645, 67647, 67648] }
  borrowed := { changes := [
    65792, 65795, 65799, 65844, 65847, 65856] }

/-- The script Cypro Minoan. -/
def cyproMinoan : Script where
  names := ["Cpmn", "Cypro_Minoan"]
  characters := { changes := [
    77712, 77811] }
  borrowed := { changes := [
    65792, 65794] }

/-- All scripts of Europe and its neighbours, ancient ones included. -/
def european : List Script := [
  latin, greek, cyrillic, georgian, armenian, glagolitic, gothic, oldItalic, ogham, runic,
  oldPermic, oldHungarian, elbasan, caucasianAlbanian, vithkuqi, todhri, shavian, lycian,
  lydian, carian, linearA, linearB, cypriot, cyproMinoan]

end TreeQuery.Text.Script
