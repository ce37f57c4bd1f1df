import TreeQuery.Text.Script.Basic

/-!
# Notations and shared characters

Notational systems, and the characters that belong to no single script.
-/

namespace TreeQuery.Text.Script

/-- The script Braille. -/
def braille : Script where
  names := ["Brai", "Braille"]
  characters := { changes := [
    10240, 10496] }

/-- The script Duployan. -/
def duployan : Script where
  names := ["Dupl", "Duployan"]
  characters := { changes := [
    113664, 113771, 113776, 113789, 113792, 113801, 113808, 113818, 113820, 113824] }
  borrowed := { changes := [
    183, 184, 775, 777, 778, 779, 803, 805, 11836, 11837, 113824, 113828] }

/-- The script SignWriting. -/
def signWriting : Script where
  names := ["Sgnw", "SignWriting"]
  characters := { changes := [
    120832, 121484, 121499, 121504, 121505, 121520] }

/-- The characters of many scripts, such as digits and punctuation. -/
def common : Script where
  names := ["Zyyy", "Common"]
  characters := { changes := [
    0, 65, 91, 97, 123, 170, 171, 186, 187, 192, 215, 216, 247, 248, 697, 736, 741, 746, 748,
    768, 884, 885, 894, 895, 901, 902, 903, 904, 1541, 1542, 1548, 1549, 1563, 1564, 1567, 1568,
    1600, 1601, 1757, 1758, 2274, 2275, 2404, 2406, 3647, 3648, 4053, 4057, 4347, 4348, 5867,
    5870, 5941, 5943, 6146, 6148, 6149, 6150, 7379, 7380, 7393, 7394, 7401, 7405, 7406, 7412,
    7413, 7416, 7418, 7419, 8192, 8204, 8206, 8293, 8294, 8305, 8308, 8319, 8320, 8335, 8352,
    8385, 8448, 8486, 8487, 8490, 8492, 8498, 8499, 8526, 8527, 8544, 8585, 8588, 8592, 9258,
    9280, 9291, 9312, 10240, 10496, 11124, 11126, 11158, 11159, 11264, 11776, 11870, 12272,
    12293, 12294, 12295, 12296, 12321, 12336, 12344, 12348, 12352, 12443, 12445, 12448, 12449,
    12539, 12541, 12688, 12704, 12736, 12774, 12783, 12784, 12832, 12896, 12927, 13008, 13055,
    13056, 13144, 13312, 19904, 19968, 42752, 42786, 42888, 42891, 43056, 43066, 43310, 43311,
    43471, 43472, 43867, 43868, 43882, 43884, 64830, 64832, 65040, 65050, 65072, 65107, 65108,
    65127, 65128, 65132, 65279, 65280, 65281, 65313, 65339, 65345, 65371, 65382, 65392, 65393,
    65438, 65440, 65504, 65511, 65512, 65519, 65529, 65534, 65792, 65795, 65799, 65844, 65847,
    65856, 65936, 65949, 66000, 66045, 66273, 66300, 113824, 113828, 117760, 118010, 118016,
    118452, 118608, 118724, 118784, 119030, 119040, 119079, 119081, 119143, 119146, 119163,
    119171, 119173, 119180, 119210, 119214, 119275, 119488, 119508, 119520, 119540, 119552,
    119639, 119648, 119673, 119808, 119893, 119894, 119965, 119966, 119968, 119970, 119971,
    119973, 119975, 119977, 119981, 119982, 119994, 119995, 119996, 119997, 120004, 120005,
    120070, 120071, 120075, 120077, 120085, 120086, 120093, 120094, 120122, 120123, 120127,
    120128, 120133, 120134, 120135, 120138, 120145, 120146, 120486, 120488, 120780, 120782,
    120832, 126065, 126133, 126209, 126270, 126976, 127020, 127024, 127124, 127136, 127151,
    127153, 127168, 127169, 127184, 127185, 127222, 127232, 127406, 127462, 127488, 127489,
    127491, 127504, 127548, 127552, 127561, 127568, 127570, 127584, 127590, 127744, 128728,
    128732, 128749, 128752, 128765, 128768, 128887, 128891, 128986, 128992, 129004, 129008,
    129009, 129024, 129036, 129040, 129096, 129104, 129114, 129120, 129160, 129168, 129198,
    129200, 129212, 129216, 129218, 129280, 129620, 129632, 129646, 129648, 129661, 129664,
    129674, 129679, 129735, 129742, 129757, 129759, 129770, 129776, 129785, 129792, 129939,
    129940, 130042, 917505, 917506, 917536, 917632] }

/-- The marks that take on the script of the character before them. -/
def inherited : Script where
  names := ["Zinh", "Inherited", "Qaai"]
  characters := { changes := [
    768, 880, 1157, 1159, 1611, 1622, 1648, 1649, 2385, 2389, 6832, 6863, 7376, 7379, 7380,
    7393, 7394, 7401, 7405, 7406, 7412, 7413, 7416, 7418, 7616, 7680, 8204, 8206, 8400, 8433,
    12330, 12334, 12441, 12443, 65024, 65040, 65056, 65070, 66045, 66046, 66272, 66273, 70459,
    70460, 118528, 118574, 118576, 118599, 119143, 119146, 119163, 119171, 119173, 119180,
    119210, 119214, 917760, 918000] }

/-- The notational systems. -/
def shared : List Script := [
  braille, duployan, signWriting]

end TreeQuery.Text.Script
