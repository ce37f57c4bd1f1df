import TreeQuery.Text.Alphanumeric
import TreeQuery.Text.Category.Letter
import TreeQuery.Text.Category.Mark
import TreeQuery.Text.Category.Number
import TreeQuery.Text.Category.Other
import TreeQuery.Text.Category.Punctuation
import TreeQuery.Text.Category.Symbol

/-!
# Use in text

The properties that say what a character is used for: numbers, mathematics, punctuation, accents
and ideographs.
-/

namespace TreeQuery.Text.Property

/-- Marks and signs that count as letters. -/
def otherAlphabetic : CodePoints :=
  alphabetic.inter (CodePoints.unions [Category.nonspacingMark, Category.spacingMark,
    Category.enclosingMark, Category.otherSymbol])

/-- The hexadecimal digits of ASCII. -/
def asciiHexDigit : CodePoints := { changes := [
  48, 58, 65, 71, 97, 103] }

/-- The hexadecimal digits, in full width too. -/
def hexDigit : CodePoints := { changes := [
  48, 58, 65, 71, 97, 103, 65296, 65306, 65313, 65319, 65345, 65351] }

/-- Characters of mathematics that are not of category Sm. -/
def otherMath : CodePoints := { changes := [
  94, 95, 976, 979, 981, 982, 1008, 1010, 1012, 1014, 8214, 8215, 8242, 8245, 8256, 8257, 8289,
  8293, 8317, 8319, 8333, 8335, 8400, 8413, 8417, 8418, 8421, 8423, 8427, 8432, 8450, 8451,
  8455, 8456, 8458, 8468, 8469, 8470, 8473, 8478, 8484, 8485, 8488, 8490, 8492, 8494, 8495,
  8498, 8499, 8505, 8508, 8512, 8517, 8522, 8597, 8602, 8604, 8608, 8609, 8611, 8612, 8614,
  8615, 8616, 8617, 8622, 8624, 8626, 8630, 8632, 8636, 8654, 8656, 8658, 8659, 8660, 8661,
  8668, 8669, 8670, 8676, 8678, 8968, 8972, 9140, 9142, 9143, 9144, 9168, 9169, 9186, 9187,
  9632, 9634, 9646, 9655, 9660, 9665, 9670, 9672, 9674, 9676, 9679, 9684, 9698, 9699, 9700,
  9701, 9703, 9709, 9733, 9735, 9792, 9793, 9794, 9795, 9824, 9828, 9837, 9839, 10181, 10183,
  10214, 10224, 10627, 10649, 10712, 10716, 10748, 10750, 65121, 65122, 65123, 65124, 65128,
  65129, 65340, 65341, 65342, 65343, 119808, 119893, 119894, 119965, 119966, 119968, 119970,
  119971, 119973, 119975, 119977, 119981, 119982, 119994, 119995, 119996, 119997, 120004,
  120005, 120070, 120071, 120075, 120077, 120085, 120086, 120093, 120094, 120122, 120123,
  120127, 120128, 120133, 120134, 120135, 120138, 120145, 120146, 120486, 120488, 120513,
  120514, 120539, 120540, 120571, 120572, 120597, 120598, 120629, 120630, 120655, 120656,
  120687, 120688, 120713, 120714, 120745, 120746, 120771, 120772, 120780, 120782, 120832,
  126464, 126468, 126469, 126496, 126497, 126499, 126500, 126501, 126503, 126504, 126505,
  126515, 126516, 126520, 126521, 126522, 126523, 126524, 126530, 126531, 126535, 126536,
  126537, 126538, 126539, 126540, 126541, 126544, 126545, 126547, 126548, 126549, 126551,
  126552, 126553, 126554, 126555, 126556, 126557, 126558, 126559, 126560, 126561, 126563,
  126564, 126565, 126567, 126571, 126572, 126579, 126580, 126584, 126585, 126589, 126590,
  126591, 126592, 126602, 126603, 126620, 126625, 126628, 126629, 126634, 126635, 126652] }

/-- The characters of mathematics. -/
def math : CodePoints :=
  Category.mathSymbol.union otherMath

/-- Dashes. -/
def dash : CodePoints := { changes := [
  45, 46, 1418, 1419, 1470, 1471, 5120, 5121, 6150, 6151, 8208, 8214, 8275, 8276, 8315, 8316,
  8331, 8332, 8722, 8723, 11799, 11800, 11802, 11803, 11834, 11836, 11840, 11841, 11869, 11870,
  12316, 12317, 12336, 12337, 12448, 12449, 65073, 65075, 65112, 65113, 65123, 65124, 65293,
  65294, 68974, 68975, 69293, 69294] }

/-- Hyphens. -/
def hyphen : CodePoints := { changes := [
  45, 46, 173, 174, 1418, 1419, 6150, 6151, 8208, 8210, 11799, 11800, 12539, 12540, 65123,
  65124, 65293, 65294, 65381, 65382] }

/-- Quotation marks. -/
def quotationMark : CodePoints := { changes := [
  34, 35, 39, 40, 171, 172, 187, 188, 8216, 8224, 8249, 8251, 11842, 11843, 12300, 12304, 12317,
  12320, 65089, 65093, 65282, 65283, 65287, 65288, 65378, 65380] }

/-- Punctuation that ends a unit of text. -/
def terminalPunctuation : CodePoints := { changes := [
  33, 34, 44, 45, 46, 47, 58, 60, 63, 64, 894, 895, 903, 904, 1417, 1418, 1475, 1476, 1548,
  1549, 1563, 1564, 1565, 1568, 1748, 1749, 1792, 1803, 1804, 1805, 2040, 2042, 2096, 2102,
  2103, 2111, 2142, 2143, 2404, 2406, 3674, 3676, 3848, 3849, 3853, 3859, 4170, 4172, 4961,
  4969, 5742, 5743, 5867, 5870, 5941, 5943, 6100, 6103, 6106, 6107, 6146, 6150, 6152, 6154,
  6468, 6470, 6824, 6828, 6990, 6992, 7002, 7004, 7005, 7008, 7037, 7040, 7227, 7232, 7294,
  7296, 8228, 8229, 8252, 8254, 8263, 8266, 11513, 11516, 11822, 11823, 11836, 11837, 11841,
  11842, 11852, 11853, 11854, 11856, 11859, 11861, 12289, 12291, 42238, 42240, 42509, 42512,
  42739, 42744, 43126, 43128, 43214, 43216, 43311, 43312, 43463, 43466, 43613, 43616, 43743,
  43744, 43760, 43762, 44011, 44012, 65042, 65043, 65045, 65047, 65104, 65107, 65108, 65112,
  65281, 65282, 65292, 65293, 65294, 65295, 65306, 65308, 65311, 65312, 65377, 65378, 65380,
  65381, 66463, 66464, 66512, 66513, 67671, 67672, 67871, 67872, 68182, 68184, 68336, 68342,
  68410, 68416, 68505, 68509, 69461, 69466, 69510, 69514, 69703, 69710, 69822, 69826, 69953,
  69956, 70085, 70087, 70093, 70094, 70110, 70112, 70200, 70205, 70313, 70314, 70612, 70614,
  70731, 70734, 70746, 70748, 71106, 71110, 71113, 71128, 71233, 71235, 71484, 71487, 72004,
  72005, 72006, 72007, 72258, 72260, 72347, 72349, 72353, 72355, 72769, 72772, 72817, 72818,
  73463, 73465, 73539, 73541, 74864, 74869, 92782, 92784, 92917, 92918, 92983, 92986, 92996,
  92997, 93550, 93552, 93847, 93849, 113823, 113824, 121479, 121483] }

/-- Punctuation that ends a sentence. -/
def sentenceTerminal : CodePoints := { changes := [
  33, 34, 46, 47, 63, 64, 1417, 1418, 1565, 1568, 1748, 1749, 1792, 1795, 2041, 2042, 2103,
  2104, 2105, 2106, 2109, 2111, 2404, 2406, 4170, 4172, 4962, 4963, 4967, 4969, 5742, 5743,
  5941, 5943, 6100, 6102, 6147, 6148, 6153, 6154, 6468, 6470, 6824, 6828, 6990, 6992, 7002,
  7004, 7006, 7008, 7037, 7040, 7227, 7229, 7294, 7296, 8228, 8229, 8252, 8254, 8263, 8266,
  11513, 11516, 11822, 11823, 11836, 11837, 11859, 11861, 12290, 12291, 42239, 42240, 42510,
  42512, 42739, 42740, 42743, 42744, 43126, 43128, 43214, 43216, 43311, 43312, 43464, 43466,
  43613, 43616, 43760, 43762, 44011, 44012, 65042, 65043, 65045, 65047, 65106, 65107, 65110,
  65112, 65281, 65282, 65294, 65295, 65311, 65312, 65377, 65378, 68182, 68184, 69461, 69466,
  69510, 69514, 69703, 69705, 69822, 69826, 69953, 69956, 70085, 70087, 70093, 70094, 70110,
  70112, 70200, 70202, 70203, 70205, 70313, 70314, 70612, 70614, 70731, 70733, 71106, 71108,
  71113, 71128, 71233, 71235, 71484, 71487, 72004, 72005, 72006, 72007, 72258, 72260, 72347,
  72349, 72769, 72771, 73463, 73465, 73539, 73541, 92782, 92784, 92917, 92918, 92983, 92985,
  92996, 92997, 93550, 93552, 93848, 93849, 113823, 113824, 121480, 121481] }

/-- Characters that change the reading of another one. -/
def diacritic : CodePoints := { changes := [
  94, 95, 96, 97, 168, 169, 175, 176, 180, 181, 183, 185, 688, 847, 848, 856, 861, 867, 884,
  886, 890, 891, 900, 902, 1155, 1160, 1369, 1370, 1425, 1470, 1471, 1472, 1473, 1475, 1476,
  1478, 1479, 1480, 1611, 1619, 1623, 1625, 1759, 1761, 1765, 1767, 1770, 1773, 1840, 1867,
  1958, 1969, 2027, 2038, 2072, 2074, 2200, 2208, 2249, 2259, 2275, 2303, 2364, 2365, 2381,
  2382, 2385, 2389, 2417, 2418, 2492, 2493, 2509, 2510, 2620, 2621, 2637, 2638, 2748, 2749,
  2765, 2766, 2813, 2816, 2876, 2877, 2893, 2894, 2901, 2902, 3021, 3022, 3132, 3133, 3149,
  3150, 3260, 3261, 3277, 3278, 3387, 3389, 3405, 3406, 3530, 3531, 3642, 3643, 3655, 3661,
  3662, 3663, 3770, 3771, 3784, 3789, 3864, 3866, 3893, 3894, 3895, 3896, 3897, 3898, 3902,
  3904, 3970, 3973, 3974, 3976, 4038, 4039, 4151, 4152, 4153, 4155, 4195, 4197, 4201, 4206,
  4231, 4238, 4239, 4240, 4250, 4252, 4957, 4960, 5908, 5910, 5940, 5941, 6089, 6100, 6109,
  6110, 6457, 6460, 6752, 6753, 6773, 6781, 6783, 6784, 6832, 6847, 6849, 6860, 6964, 6965,
  6980, 6981, 7019, 7028, 7082, 7084, 7142, 7143, 7154, 7156, 7222, 7224, 7288, 7294, 7376,
  7401, 7405, 7406, 7412, 7413, 7415, 7418, 7468, 7531, 7579, 7615, 7620, 7632, 7669, 7680,
  8125, 8126, 8127, 8130, 8141, 8144, 8157, 8160, 8173, 8176, 8189, 8191, 11503, 11506, 11823,
  11824, 12330, 12336, 12441, 12445, 12540, 12541, 42607, 42608, 42620, 42622, 42623, 42624,
  42652, 42654, 42736, 42738, 42752, 42786, 42888, 42891, 43000, 43002, 43014, 43015, 43052,
  43053, 43204, 43205, 43232, 43250, 43307, 43311, 43347, 43348, 43443, 43444, 43456, 43457,
  43493, 43494, 43643, 43646, 43711, 43715, 43766, 43767, 43867, 43872, 43881, 43884, 44012,
  44014, 64286, 64287, 65056, 65072, 65342, 65343, 65344, 65345, 65392, 65393, 65438, 65440,
  65507, 65508, 66272, 66273, 67456, 67462, 67463, 67505, 67506, 67515, 68152, 68155, 68159,
  68160, 68325, 68327, 68898, 68904, 68942, 68943, 68969, 68974, 69373, 69376, 69446, 69457,
  69506, 69510, 69702, 69703, 69744, 69745, 69817, 69819, 69939, 69941, 70003, 70004, 70080,
  70081, 70090, 70093, 70197, 70199, 70377, 70379, 70459, 70461, 70477, 70478, 70502, 70509,
  70512, 70517, 70606, 70609, 70610, 70612, 70625, 70627, 70722, 70723, 70726, 70727, 70850,
  70852, 71103, 71105, 71231, 71232, 71350, 71352, 71467, 71468, 71737, 71739, 71997, 71999,
  72003, 72004, 72160, 72161, 72244, 72245, 72263, 72264, 72345, 72346, 72767, 72768, 73026,
  73027, 73028, 73030, 73111, 73112, 73537, 73539, 73562, 73563, 78919, 78934, 90415, 90416,
  92912, 92917, 92976, 92983, 93547, 93549, 94095, 94112, 94192, 94194, 110576, 110580, 110581,
  110588, 110589, 110591, 118528, 118574, 118576, 118599, 119143, 119146, 119149, 119155,
  119163, 119171, 119173, 119180, 119210, 119214, 122928, 122990, 123184, 123191, 123566,
  123567, 123628, 123632, 124398, 124400, 125136, 125143, 125252, 125255, 125256, 125259] }

/-- Characters that lengthen or repeat the one before them. -/
def extender : CodePoints := { changes := [
  183, 184, 720, 722, 1600, 1601, 2042, 2043, 2673, 2674, 2811, 2812, 2901, 2902, 3654, 3655,
  3782, 3783, 6154, 6155, 6211, 6212, 6823, 6824, 7222, 7223, 7291, 7292, 12293, 12294, 12337,
  12342, 12445, 12447, 12540, 12543, 40981, 40982, 42508, 42509, 43471, 43472, 43494, 43495,
  43632, 43633, 43741, 43742, 43763, 43765, 65392, 65393, 67457, 67459, 68942, 68943, 68970,
  68971, 68975, 68976, 70199, 70200, 70493, 70494, 70610, 70612, 71110, 71113, 72344, 72345,
  92994, 92996, 94176, 94178, 94179, 94180, 123196, 123198, 124399, 124400, 125252, 125255] }

/-- Ideographs. -/
def ideographic : CodePoints := { changes := [
  12294, 12296, 12321, 12330, 12344, 12347, 13312, 19904, 19968, 40960, 63744, 64110, 64112,
  64218, 94180, 94181, 94208, 100344, 100352, 101590, 101631, 101641, 110960, 111356, 131072,
  173792, 173824, 177978, 177984, 178206, 178208, 183970, 183984, 191457, 191472, 192094,
  194560, 195102, 196608, 201547, 201552, 205744] }

/-- Unified ideographs of East Asia. -/
def unifiedIdeograph : CodePoints := { changes := [
  13312, 19904, 19968, 40960, 64014, 64016, 64017, 64018, 64019, 64021, 64031, 64032, 64033,
  64034, 64035, 64037, 64039, 64042, 131072, 173792, 173824, 177978, 177984, 178206, 178208,
  183970, 183984, 191457, 191472, 192094, 196608, 201547, 201552, 205744] }

/-- Radicals of ideographs. -/
def radical : CodePoints := { changes := [
  11904, 11930, 11931, 12020, 12032, 12246] }

/-- Signs that describe an ideograph by one part. -/
def unaryOperator : CodePoints := { changes := [
  12286, 12288] }

/-- Signs that describe an ideograph by two parts. -/
def binaryOperator : CodePoints := { changes := [
  12272, 12274, 12276, 12286, 12783, 12784] }

/-- Signs that describe an ideograph by three parts. -/
def ternaryOperator : CodePoints := { changes := [
  12274, 12276] }

end TreeQuery.Text.Property
