import TreeQuery.Text.Category.Letter
import TreeQuery.Text.Category.Mark
import TreeQuery.Text.Category.Number
import TreeQuery.Text.Category.Other
import TreeQuery.Text.Category.Punctuation
import TreeQuery.Text.Category.Symbol

/-!
# Letter case

The properties that have to do with capital and small letters, and with what the case maps change.
-/

namespace TreeQuery.Text.Property

/-- Small characters that are not of category Ll, such as ordinal indicators and small roman
numerals. -/
def otherLowercase : CodePoints := { changes := [
  170, 171, 186, 187, 688, 697, 704, 706, 736, 741, 837, 838, 890, 891, 4348, 4349, 7468, 7531,
  7544, 7545, 7579, 7616, 8305, 8306, 8319, 8320, 8336, 8349, 8560, 8576, 9424, 9450, 11388,
  11390, 42652, 42654, 42864, 42865, 42994, 42997, 43000, 43002, 43868, 43872, 43881, 43882,
  67456, 67457, 67459, 67462, 67463, 67505, 67506, 67515, 122928, 122990] }

/-- Capital characters that are not of category Lu, such as roman numerals. -/
def otherUppercase : CodePoints := { changes := [
  8544, 8560, 9398, 9424, 127280, 127306, 127312, 127338, 127344, 127370] }

/-- The small characters. -/
def lowercase : CodePoints :=
  Category.lowercaseLetter.union otherLowercase

/-- The capital characters. -/
def uppercase : CodePoints :=
  Category.uppercaseLetter.union otherUppercase

/-- The characters that have case. -/
def cased : CodePoints :=
  CodePoints.unions [lowercase, uppercase, Category.titlecaseLetter]

/-- Punctuation that may stand inside a word. -/
def innerPunctuation : CodePoints := { changes := [
  39, 40, 46, 47, 58, 59, 183, 184, 903, 904, 1375, 1376, 1524, 1525, 8216, 8218, 8228, 8229,
  8231, 8232, 65043, 65044, 65106, 65107, 65109, 65110, 65287, 65288, 65294, 65295, 65306, 65307] }

/-- The characters that do not count when the case of their surroundings is looked at. -/
def caseIgnorable : CodePoints :=
  CodePoints.unions [Category.nonspacingMark, Category.enclosingMark, Category.format,
    Category.modifierLetter, Category.modifierSymbol, innerPunctuation]

/-- The characters that lose a dot under an accent. -/
def softDotted : CodePoints := { changes := [
  105, 107, 303, 304, 585, 586, 616, 617, 669, 670, 690, 691, 1011, 1012, 1110, 1111, 1112,
  1113, 7522, 7523, 7574, 7575, 7588, 7589, 7592, 7593, 7725, 7726, 7883, 7884, 8305, 8306,
  8520, 8522, 11388, 11389, 119842, 119844, 119894, 119896, 119946, 119948, 119998, 120000,
  120050, 120052, 120102, 120104, 120154, 120156, 120206, 120208, 120258, 120260, 120310,
  120312, 120362, 120364, 120414, 120416, 120466, 120468, 122650, 122651, 122956, 122958,
  122984, 122985] }

/-- Capital characters without a small form. -/
def capitalWithoutSmall : CodePoints := { changes := [
  978, 981, 8450, 8451, 8455, 8456, 8459, 8462, 8464, 8467, 8469, 8470, 8473, 8478, 8484, 8485,
  8488, 8489, 8492, 8494, 8496, 8498, 8499, 8500, 8510, 8512, 8517, 8518, 119808, 119834,
  119860, 119886, 119912, 119938, 119964, 119965, 119966, 119968, 119970, 119971, 119973,
  119975, 119977, 119981, 119982, 119990, 120016, 120042, 120068, 120070, 120071, 120075,
  120077, 120085, 120086, 120093, 120120, 120122, 120123, 120127, 120128, 120133, 120134,
  120135, 120138, 120145, 120172, 120198, 120224, 120250, 120276, 120302, 120328, 120354,
  120380, 120406, 120432, 120458, 120488, 120513, 120546, 120571, 120604, 120629, 120662,
  120687, 120720, 120745, 120778, 120779, 127280, 127306, 127312, 127338, 127344, 127370] }

/-- Small characters without a capital form. -/
def smallWithoutCapital : CodePoints := { changes := [
  170, 171, 186, 187, 312, 313, 397, 398, 426, 428, 442, 443, 446, 447, 545, 546, 564, 570, 597,
  598, 600, 601, 602, 603, 605, 608, 610, 611, 615, 616, 621, 623, 624, 625, 627, 629, 630, 637,
  638, 640, 641, 642, 644, 647, 653, 658, 659, 660, 661, 669, 671, 697, 704, 706, 736, 741, 890,
  891, 1020, 1021, 1376, 1377, 1416, 1417, 4348, 4349, 7424, 7545, 7546, 7549, 7550, 7566, 7567,
  7616, 7836, 7838, 7839, 7840, 8305, 8306, 8319, 8320, 8336, 8349, 8458, 8459, 8462, 8464,
  8467, 8468, 8495, 8496, 8500, 8501, 8505, 8506, 8508, 8510, 8518, 8522, 11377, 11378, 11380,
  11381, 11383, 11390, 11492, 11493, 42652, 42654, 42800, 42802, 42864, 42873, 42894, 42895,
  42901, 42902, 42927, 42928, 42963, 42964, 42965, 42966, 42994, 42997, 43000, 43003, 43824,
  43859, 43860, 43867, 43868, 43882, 67456, 67457, 67459, 67462, 67463, 67505, 67506, 67515,
  119834, 119860, 119886, 119893, 119894, 119912, 119938, 119964, 119990, 119994, 119995,
  119996, 119997, 120004, 120005, 120016, 120042, 120068, 120094, 120120, 120146, 120172,
  120198, 120224, 120250, 120276, 120302, 120328, 120354, 120380, 120406, 120432, 120458,
  120486, 120514, 120539, 120540, 120546, 120572, 120597, 120598, 120604, 120630, 120655,
  120656, 120662, 120688, 120713, 120714, 120720, 120746, 120771, 120772, 120778, 120779,
  120780, 122624, 122634, 122635, 122655, 122661, 122667, 122928, 122990] }

/-- The characters that the map to small letters changes. -/
def changesWhenLowercased : CodePoints :=
  CodePoints.union Category.titlecaseLetter (uppercase.diff capitalWithoutSmall)

/-- The characters that the map to capitals changes. -/
def changesWhenUppercased : CodePoints :=
  CodePoints.union Category.titlecaseLetter (lowercase.diff smallWithoutCapital)

/-- Capital letters whose form at the start of a word differs. -/
def digraphCapital : CodePoints := { changes := [
  452, 453, 455, 456, 458, 459, 497, 498] }

/-- Characters with a capital form that the map to the start of a word leaves alone. -/
def titlecaseAlready : CodePoints := { changes := [
  453, 454, 456, 457, 459, 460, 498, 499, 4304, 4347, 4349, 4352, 8072, 8080, 8088, 8096, 8104,
  8112, 8124, 8125, 8140, 8141, 8188, 8189] }

/-- The characters that the map for the start of a word changes. -/
def changesWhenTitlecased : CodePoints :=
  (changesWhenUppercased.diff titlecaseAlready).union digraphCapital

/-- The characters that some case map changes. -/
def changesWhenCasemapped : CodePoints :=
  CodePoints.unions [changesWhenLowercased, changesWhenUppercased, changesWhenTitlecased]

/-- Characters that case folding changes although they are small. -/
def foldedSmall : CodePoints := { changes := [
  181, 182, 223, 224, 329, 330, 383, 384, 837, 838, 962, 963, 976, 978, 981, 983, 1008, 1010,
  1013, 1014, 1415, 1416, 5112, 5118, 7296, 7305, 7834, 7836, 8064, 8072, 8080, 8088, 8096,
  8104, 8114, 8117, 8119, 8120, 8130, 8133, 8135, 8136, 8178, 8181, 8183, 8184, 43888, 43968,
  64256, 64263, 64275, 64280] }

/-- Capitals that case folding keeps. -/
def foldedCapital : CodePoints := { changes := [
  5024, 5110] }

/-- The characters that case folding changes. -/
def changesWhenCasefolded : CodePoints :=
  (changesWhenLowercased.diff foldedCapital).union foldedSmall

end TreeQuery.Text.Property
