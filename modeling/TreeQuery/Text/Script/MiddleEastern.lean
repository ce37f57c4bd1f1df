import TreeQuery.Text.Script.Basic

/-!
# Middle Eastern scripts

The scripts of the Middle East, from cuneiform to Arabic.
-/

namespace TreeQuery.Text.Script

/-- The script Hebrew. -/
def hebrew : Script where
  names := ["Hebr", "Hebrew"]
  characters := { changes := [
    1425, 1480, 1488, 1515, 1519, 1525, 64285, 64311, 64312, 64317, 64318, 64319, 64320, 64322,
    64323, 64325, 64326, 64336] }
  borrowed := { changes := [
    775, 777] }

/-- The script Arabic. -/
def arabic : Script where
  names := ["Arab", "Arabic"]
  characters := { changes := [
    1536, 1541, 1542, 1548, 1549, 1563, 1564, 1567, 1568, 1600, 1601, 1611, 1622, 1648, 1649,
    1757, 1758, 1792, 1872, 1920, 2160, 2191, 2192, 2194, 2199, 2274, 2275, 2304, 64336, 64451,
    64467, 64830, 64832, 64912, 64914, 64968, 64975, 64976, 65008, 65024, 65136, 65141, 65142,
    65277, 69216, 69247, 69314, 69317, 69372, 69376, 126464, 126468, 126469, 126496, 126497,
    126499, 126500, 126501, 126503, 126504, 126505, 126515, 126516, 126520, 126521, 126522,
    126523, 126524, 126530, 126531, 126535, 126536, 126537, 126538, 126539, 126540, 126541,
    126544, 126545, 126547, 126548, 126549, 126551, 126552, 126553, 126554, 126555, 126556,
    126557, 126558, 126559, 126560, 126561, 126563, 126564, 126565, 126567, 126571, 126572,
    126579, 126580, 126584, 126585, 126589, 126590, 126591, 126592, 126602, 126603, 126620,
    126625, 126628, 126629, 126634, 126635, 126652, 126704, 126706] }
  borrowed := { changes := [
    1548, 1549, 1563, 1564, 1567, 1568, 1600, 1601, 1611, 1622, 1648, 1649, 8271, 8272, 11841,
    11842, 64830, 64832, 66272, 66300] }

/-- The script Syriac. -/
def syriac : Script where
  names := ["Syrc", "Syriac"]
  characters := { changes := [
    1792, 1806, 1807, 1867, 1869, 1872, 2144, 2155] }
  borrowed := { changes := [
    771, 773, 775, 777, 778, 779, 803, 806, 813, 815, 816, 818, 1548, 1549, 1563, 1565, 1567,
    1568, 1600, 1601, 1611, 1622, 1648, 1649, 7672, 7673, 7674, 7675] }

/-- The script Samaritan. -/
def samaritan : Script where
  names := ["Samr", "Samaritan"]
  characters := { changes := [
    2048, 2094, 2096, 2111] }
  borrowed := { changes := [
    11825, 11826] }

/-- The script Mandaic. -/
def mandaic : Script where
  names := ["Mand", "Mandaic"]
  characters := { changes := [
    2112, 2140, 2142, 2143] }
  borrowed := tatweel

/-- The script Imperial Aramaic. -/
def imperialAramaic : Script where
  names := ["Armi", "Imperial_Aramaic"]
  characters := { changes := [
    67648, 67670, 67671, 67680] }

/-- The script Avestan. -/
def avestan : Script where
  names := ["Avst", "Avestan"]
  characters := { changes := [
    68352, 68406, 68409, 68416] }
  borrowed := { changes := [
    183, 184, 11824, 11826] }

/-- The script Inscriptional Parthian. -/
def inscriptionalParthian : Script where
  names := ["Prti", "Inscriptional_Parthian"]
  characters := { changes := [
    68416, 68438, 68440, 68448] }

/-- The script Inscriptional Pahlavi. -/
def inscriptionalPahlavi : Script where
  names := ["Phli", "Inscriptional_Pahlavi"]
  characters := { changes := [
    68448, 68467, 68472, 68480] }

/-- The script Psalter Pahlavi. -/
def psalterPahlavi : Script where
  names := ["Phlp", "Psalter_Pahlavi"]
  characters := { changes := [
    68480, 68498, 68505, 68509, 68521, 68528] }
  borrowed := tatweel

/-- The script Chorasmian. -/
def chorasmian : Script where
  names := ["Chrs", "Chorasmian"]
  characters := { changes := [
    69552, 69580] }

/-- The script Elymaic. -/
def elymaic : Script where
  names := ["Elym", "Elymaic"]
  characters := { changes := [
    69600, 69623] }

/-- The script Hatran. -/
def hatran : Script where
  names := ["Hatr", "Hatran"]
  characters := { changes := [
    67808, 67827, 67828, 67830, 67835, 67840] }

/-- The script Manichaean. -/
def manichaean : Script where
  names := ["Mani", "Manichaean"]
  characters := { changes := [
    68288, 68327, 68331, 68343] }
  borrowed := tatweel

/-- The script Nabataean. -/
def nabataean : Script where
  names := ["Nbat", "Nabataean"]
  characters := { changes := [
    67712, 67743, 67751, 67760] }

/-- The script Old North Arabian. -/
def oldNorthArabian : Script where
  names := ["Narb", "Old_North_Arabian"]
  characters := { changes := [
    68224, 68256] }

/-- The script Old South Arabian. -/
def oldSouthArabian : Script where
  names := ["Sarb", "Old_South_Arabian"]
  characters := { changes := [
    68192, 68224] }

/-- The script Palmyrene. -/
def palmyrene : Script where
  names := ["Palm", "Palmyrene"]
  characters := { changes := [
    67680, 67712] }

/-- The script Phoenician. -/
def phoenician : Script where
  names := ["Phnx", "Phoenician"]
  characters := { changes := [
    67840, 67868, 67871, 67872] }

/-- The script Ugaritic. -/
def ugaritic : Script where
  names := ["Ugar", "Ugaritic"]
  characters := { changes := [
    66432, 66462, 66463, 66464] }

/-- The script Old Persian. -/
def oldPersian : Script where
  names := ["Xpeo", "Old_Persian"]
  characters := { changes := [
    66464, 66500, 66504, 66518] }

/-- The script Cuneiform. -/
def cuneiform : Script where
  names := ["Xsux", "Cuneiform"]
  characters := { changes := [
    73728, 74650, 74752, 74863, 74864, 74869, 74880, 75076] }

/-- The script Yezidi. -/
def yezidi : Script where
  names := ["Yezi", "Yezidi"]
  characters := { changes := [
    69248, 69290, 69291, 69294, 69296, 69298] }
  borrowed := { changes := [
    1548, 1549, 1563, 1564, 1567, 1568, 1632, 1642] }

/-- The script Anatolian Hieroglyphs. -/
def anatolianHieroglyphs : Script where
  names := ["Hluw", "Anatolian_Hieroglyphs"]
  characters := { changes := [
    82944, 83527] }

/-- All scripts of the Middle East, from cuneiform to Arabic. -/
def middleEastern : List Script := [
  hebrew, arabic, syriac, samaritan, mandaic, imperialAramaic, avestan, inscriptionalParthian,
  inscriptionalPahlavi, psalterPahlavi, chorasmian, elymaic, hatran, manichaean, nabataean,
  oldNorthArabian, oldSouthArabian, palmyrene, phoenician, ugaritic, oldPersian, cuneiform,
  yezidi, anatolianHieroglyphs]

end TreeQuery.Text.Script
