import TreeQuery.Text.Alphanumeric
import TreeQuery.Text.Category.Letter
import TreeQuery.Text.Category.Mark
import TreeQuery.Text.Category.Number
import TreeQuery.Text.Category.Other
import TreeQuery.Text.Category.Punctuation
import TreeQuery.Text.Category.Symbol

/-!
# Shape and layout

The properties that say how a character joins its neighbours, runs, and takes up space.
-/

namespace TreeQuery.Text.Property

/-- Controls of the writing direction. -/
def bidiControl : CodePoints := { changes := [
  1564, 1565, 8206, 8208, 8234, 8239, 8294, 8298] }

/-- Characters that are mirrored where writing runs from right to left. -/
def bidiMirrored : CodePoints := { changes := [
  40, 42, 60, 61, 62, 63, 91, 92, 93, 94, 123, 124, 125, 126, 171, 172, 187, 188, 3898, 3902,
  5787, 5789, 8249, 8251, 8261, 8263, 8317, 8319, 8333, 8335, 8512, 8513, 8705, 8709, 8712,
  8718, 8721, 8722, 8725, 8727, 8730, 8734, 8735, 8739, 8740, 8741, 8742, 8743, 8747, 8756,
  8761, 8762, 8763, 8781, 8786, 8790, 8799, 8801, 8802, 8803, 8804, 8812, 8813, 8845, 8847,
  8851, 8856, 8857, 8866, 8868, 8870, 8889, 8894, 8896, 8905, 8910, 8912, 8914, 8918, 8942,
  8944, 8960, 8968, 8972, 8992, 8994, 9001, 9003, 10088, 10102, 10176, 10177, 10179, 10183,
  10184, 10186, 10187, 10190, 10195, 10199, 10204, 10207, 10210, 10224, 10627, 10649, 10651,
  10657, 10658, 10672, 10680, 10681, 10688, 10694, 10697, 10698, 10702, 10707, 10708, 10710,
  10712, 10717, 10721, 10722, 10723, 10726, 10728, 10730, 10740, 10746, 10748, 10750, 10762,
  10781, 10782, 10786, 10788, 10789, 10790, 10791, 10793, 10794, 10795, 10799, 10804, 10806,
  10812, 10815, 10839, 10841, 10852, 10854, 10858, 10862, 10863, 10865, 10867, 10869, 10873,
  10916, 10918, 10926, 10927, 10967, 10972, 10973, 10974, 10975, 10978, 10983, 10988, 10991,
  10995, 10996, 10999, 11004, 11005, 11006, 11262, 11263, 11778, 11782, 11785, 11787, 11788,
  11790, 11804, 11806, 11808, 11818, 11861, 11869, 12296, 12306, 12308, 12316, 65113, 65119,
  65124, 65126, 65288, 65290, 65308, 65309, 65310, 65311, 65339, 65340, 65341, 65342, 65371,
  65372, 65373, 65374, 65375, 65377, 65378, 65380, 120539, 120540, 120597, 120598, 120655,
  120656, 120713, 120714, 120771, 120772] }

/-- The joiner and the non-joiner. -/
def joinControl : CodePoints := { changes := [
  8204, 8206] }

/-- Selectors of a variant of the character before them. -/
def variationSelector : CodePoints := { changes := [
  6155, 6158, 6159, 6160, 65024, 65040, 917760, 918000] }

/-- Characters without a shape that belong to no category for such. -/
def otherDefaultIgnorable : CodePoints := { changes := [
  847, 848, 4447, 4449, 6068, 6070, 8293, 8294, 12644, 12645, 65440, 65441, 65520, 65529,
  917504, 917505, 917506, 917536, 917632, 917760, 918000, 921600] }

/-- Characters that are not shown where they are not supported. -/
def defaultIgnorable : CodePoints := { changes := [
  173, 174, 847, 848, 1564, 1565, 4447, 4449, 6068, 6070, 6155, 6160, 8203, 8208, 8234, 8239,
  8288, 8304, 12644, 12645, 65024, 65040, 65279, 65280, 65440, 65441, 65520, 65529, 113824,
  113828, 119155, 119163, 917504, 921600] }

/-- Characters that should no longer be used. -/
def deprecated : CodePoints := { changes := [
  329, 330, 1651, 1652, 3959, 3960, 3961, 3962, 6051, 6053, 8298, 8304, 9001, 9003, 917505,
  917506] }

/-- Code points that will never be characters. -/
def noncharacter : CodePoints := { changes := [
  64976, 65008, 65534, 65536, 131070, 131072, 196606, 196608, 262142, 262144, 327678, 327680,
  393214, 393216, 458750, 458752, 524286, 524288, 589822, 589824, 655358, 655360, 720894,
  720896, 786430, 786432, 851966, 851968, 917502, 917504, 983038, 983040, 1048574, 1048576,
  1114110, 1114112] }

/-- Vowel signs that stand before the consonant they are spoken after. -/
def logicalOrderException : CodePoints := { changes := [
  3648, 3653, 3776, 3781, 6581, 6584, 6586, 6587, 43701, 43703, 43705, 43706, 43707, 43709] }

/-- Signs that stand before a number and enclose it. -/
def prependedConcatenationMark : CodePoints := { changes := [
  1536, 1542, 1757, 1758, 1807, 1808, 2192, 2194, 2274, 2275, 69821, 69822, 69837, 69838] }

/-- The letters that make up flags. -/
def regionalIndicator : CodePoints := { changes := [
  127462, 127488] }

/-- Marks that modify a consonant sign in Arabic script. -/
def modifierCombiningMark : CodePoints := { changes := [
  1620, 1622, 1624, 1625, 1756, 1757, 1763, 1764, 1767, 1769, 2250, 2252, 2253, 2256, 2259,
  2260, 2291, 2292] }

/-- Characters that belong to the one before them although they are neither nonspacing nor
enclosing marks. -/
def otherGraphemeExtend : CodePoints := { changes := [
  2494, 2495, 2519, 2520, 2878, 2879, 2903, 2904, 3006, 3007, 3031, 3032, 3264, 3265, 3266,
  3267, 3271, 3273, 3274, 3276, 3285, 3287, 3390, 3391, 3415, 3416, 3535, 3536, 3551, 3552,
  5909, 5910, 5940, 5941, 6965, 6966, 6971, 6972, 6973, 6974, 6979, 6981, 7082, 7083, 7154,
  7156, 8204, 8205, 12334, 12336, 43347, 43348, 43456, 43457, 65438, 65440, 70080, 70081, 70197,
  70198, 70462, 70463, 70477, 70478, 70487, 70488, 70584, 70585, 70594, 70595, 70597, 70598,
  70599, 70602, 70607, 70608, 70832, 70833, 70845, 70846, 71087, 71088, 71350, 71351, 71984,
  71985, 71997, 71998, 73537, 73538, 94192, 94194, 119141, 119143, 119149, 119155, 917536,
  917632] }

/-- The characters that belong to the one before them. -/
def graphemeExtend : CodePoints :=
  CodePoints.unions [Category.nonspacingMark, Category.enclosingMark, otherGraphemeExtend]

/-- Signs that join the letters around them. -/
def graphemeLink : CodePoints := { changes := [
  2381, 2382, 2509, 2510, 2637, 2638, 2765, 2766, 2893, 2894, 3021, 3022, 3149, 3150, 3277,
  3278, 3387, 3389, 3405, 3406, 3530, 3531, 3642, 3643, 3770, 3771, 3972, 3973, 4153, 4155,
  5908, 5910, 5940, 5941, 6098, 6099, 6752, 6753, 6980, 6981, 7082, 7084, 7154, 7156, 11647,
  11648, 43014, 43015, 43052, 43053, 43204, 43205, 43347, 43348, 43456, 43457, 43766, 43767,
  44013, 44014, 68159, 68160, 69702, 69703, 69744, 69745, 69759, 69760, 69817, 69818, 69939,
  69941, 70080, 70081, 70197, 70198, 70378, 70379, 70477, 70478, 70606, 70609, 70722, 70723,
  70850, 70851, 71103, 71104, 71231, 71232, 71350, 71351, 71467, 71468, 71737, 71738, 71997,
  71999, 72160, 72161, 72244, 72245, 72263, 72264, 72345, 72346, 72767, 72768, 73028, 73030,
  73111, 73112, 73537, 73539, 90415, 90416] }

/-- The characters with a shape of their own. -/
def graphemeBase : CodePoints :=
  CodePoints.diff
    (CodePoints.unions [lettersAndNumbers, Category.uppercaseLetter, Category.lowercaseLetter,
      Category.titlecaseLetter, Category.modifierLetter, Category.otherLetter, Category.spacingMark,
      Category.decimalNumber, Category.letterNumber, Category.otherNumber,
      Category.connectorPunctuation, Category.dashPunctuation, Category.openPunctuation,
      Category.closePunctuation, Category.initialPunctuation, Category.finalPunctuation,
      Category.otherPunctuation, Category.mathSymbol, Category.currencySymbol,
      Category.modifierSymbol, Category.otherSymbol, Category.spaceSeparator])
    graphemeExtend

end TreeQuery.Text.Property
