import TreeQuery.Text.CodePoints

/-!
# The age of characters

Each version of Unicode assigned some more characters.
-/

namespace TreeQuery.Text.Age

/-- The characters that version 1.1 added. -/
def added1p1 : CodePoints := { changes := [
  0, 502, 506, 536, 592, 681, 688, 735, 736, 746, 768, 838, 864, 866, 884, 886, 890, 891, 894,
  895, 900, 907, 908, 909, 910, 930, 931, 975, 976, 983, 986, 987, 988, 989, 990, 991, 992, 993,
  994, 1012, 1025, 1037, 1038, 1104, 1105, 1117, 1118, 1159, 1168, 1221, 1223, 1225, 1227, 1229,
  1232, 1260, 1262, 1270, 1272, 1274, 1329, 1367, 1369, 1376, 1377, 1416, 1417, 1418, 1456,
  1466, 1467, 1476, 1488, 1515, 1520, 1525, 1548, 1549, 1563, 1564, 1567, 1568, 1569, 1595,
  1600, 1619, 1632, 1646, 1648, 1720, 1722, 1727, 1728, 1743, 1744, 1774, 1776, 1786, 2305,
  2308, 2309, 2362, 2364, 2382, 2384, 2389, 2392, 2417, 2433, 2436, 2437, 2445, 2447, 2449,
  2451, 2473, 2474, 2481, 2482, 2483, 2486, 2490, 2492, 2493, 2494, 2501, 2503, 2505, 2507,
  2510, 2519, 2520, 2524, 2526, 2527, 2532, 2534, 2555, 2562, 2563, 2565, 2571, 2575, 2577,
  2579, 2601, 2602, 2609, 2610, 2612, 2613, 2615, 2616, 2618, 2620, 2621, 2622, 2627, 2631,
  2633, 2635, 2638, 2649, 2653, 2654, 2655, 2662, 2677, 2689, 2692, 2693, 2700, 2701, 2702,
  2703, 2706, 2707, 2729, 2730, 2737, 2738, 2740, 2741, 2746, 2748, 2758, 2759, 2762, 2763,
  2766, 2768, 2769, 2784, 2785, 2790, 2800, 2817, 2820, 2821, 2829, 2831, 2833, 2835, 2857,
  2858, 2865, 2866, 2868, 2870, 2874, 2876, 2884, 2887, 2889, 2891, 2894, 2902, 2904, 2908,
  2910, 2911, 2914, 2918, 2929, 2946, 2948, 2949, 2955, 2958, 2961, 2962, 2966, 2969, 2971,
  2972, 2973, 2974, 2976, 2979, 2981, 2984, 2987, 2990, 2998, 2999, 3002, 3006, 3011, 3014,
  3017, 3018, 3022, 3031, 3032, 3047, 3059, 3073, 3076, 3077, 3085, 3086, 3089, 3090, 3113,
  3114, 3124, 3125, 3130, 3134, 3141, 3142, 3145, 3146, 3150, 3157, 3159, 3168, 3170, 3174,
  3184, 3202, 3204, 3205, 3213, 3214, 3217, 3218, 3241, 3242, 3252, 3253, 3258, 3262, 3269,
  3270, 3273, 3274, 3278, 3285, 3287, 3294, 3295, 3296, 3298, 3302, 3312, 3330, 3332, 3333,
  3341, 3342, 3345, 3346, 3369, 3370, 3386, 3390, 3396, 3398, 3401, 3402, 3406, 3415, 3416,
  3424, 3426, 3430, 3440, 3585, 3643, 3647, 3676, 3713, 3715, 3716, 3717, 3719, 3721, 3722,
  3723, 3725, 3726, 3732, 3736, 3737, 3744, 3745, 3748, 3749, 3750, 3751, 3752, 3754, 3756,
  3757, 3770, 3771, 3774, 3776, 3781, 3782, 3783, 3784, 3790, 3792, 3802, 3804, 3806, 4256,
  4294, 4304, 4343, 4347, 4348, 4352, 4442, 4447, 4515, 4520, 4602, 7680, 7835, 7840, 7930,
  7936, 7958, 7960, 7966, 7968, 8006, 8008, 8014, 8016, 8024, 8025, 8026, 8027, 8028, 8029,
  8030, 8031, 8062, 8064, 8117, 8118, 8133, 8134, 8148, 8150, 8156, 8157, 8176, 8178, 8181,
  8182, 8191, 8192, 8239, 8240, 8263, 8298, 8305, 8308, 8335, 8352, 8363, 8400, 8418, 8448,
  8505, 8531, 8579, 8592, 8683, 8704, 8946, 8960, 8961, 8962, 9083, 9216, 9253, 9280, 9291,
  9312, 9451, 9472, 9622, 9632, 9712, 9728, 9748, 9754, 9840, 9985, 9989, 9990, 9994, 9996,
  10024, 10025, 10060, 10061, 10062, 10063, 10067, 10070, 10071, 10072, 10079, 10081, 10088,
  10102, 10133, 10136, 10160, 10161, 10175, 12288, 12344, 12351, 12352, 12353, 12437, 12441,
  12447, 12449, 12543, 12549, 12589, 12593, 12687, 12688, 12704, 12800, 12829, 12832, 12868,
  12896, 12924, 12927, 12977, 12992, 13004, 13008, 13055, 13056, 13175, 13179, 13278, 13280,
  13311, 19968, 40870, 57344, 64046, 64256, 64263, 64275, 64280, 64286, 64311, 64312, 64317,
  64318, 64319, 64320, 64322, 64323, 64325, 64326, 64434, 64467, 64832, 64848, 64912, 64914,
  64968, 65008, 65020, 65056, 65060, 65072, 65093, 65097, 65107, 65108, 65127, 65128, 65132,
  65136, 65139, 65140, 65141, 65142, 65277, 65279, 65280, 65281, 65375, 65377, 65471, 65474,
  65480, 65482, 65488, 65490, 65496, 65498, 65501, 65504, 65511, 65512, 65519, 65533, 65536] }

/-- The characters that version 2.0 added. -/
def added2p0 : CodePoints := { changes := [
  1425, 1442, 1443, 1456, 1476, 1477, 3840, 3912, 3913, 3946, 3953, 3980, 3984, 3990, 3991,
  3992, 3993, 4014, 4017, 4024, 4025, 4026, 7835, 7836, 8363, 8364, 44032, 55204, 131070,
  131072, 196606, 196608, 262142, 262144, 327678, 327680, 393214, 393216, 458750, 458752,
  524286, 524288, 589822, 589824, 655358, 655360, 720894, 720896, 786430, 786432, 851966,
  851968, 917502, 917504, 983038, 1114112] }

/-- The characters that version 2.1 added. -/
def added2p1 : CodePoints := { changes := [
  8364, 8365, 65532, 65533] }

/-- The characters that version 3.0 added. -/
def added3p0 : CodePoints := { changes := [
  502, 506, 536, 544, 546, 564, 681, 686, 735, 736, 746, 751, 838, 847, 866, 867, 983, 984, 987,
  988, 989, 990, 991, 992, 993, 994, 1024, 1025, 1037, 1038, 1104, 1105, 1117, 1118, 1160, 1162,
  1164, 1168, 1260, 1262, 1418, 1419, 1619, 1622, 1720, 1722, 1727, 1728, 1743, 1744, 1786,
  1791, 1792, 1806, 1807, 1837, 1840, 1867, 1920, 1969, 3458, 3460, 3461, 3479, 3482, 3506,
  3507, 3516, 3517, 3518, 3520, 3527, 3530, 3531, 3535, 3541, 3542, 3543, 3544, 3552, 3570,
  3573, 3946, 3947, 3990, 3991, 4014, 4017, 4024, 4025, 4026, 4029, 4030, 4045, 4047, 4048,
  4096, 4130, 4131, 4136, 4137, 4139, 4140, 4147, 4150, 4154, 4160, 4186, 4608, 4615, 4616,
  4679, 4680, 4681, 4682, 4686, 4688, 4695, 4696, 4697, 4698, 4702, 4704, 4743, 4744, 4745,
  4746, 4750, 4752, 4783, 4784, 4785, 4786, 4790, 4792, 4799, 4800, 4801, 4802, 4806, 4808,
  4815, 4816, 4823, 4824, 4847, 4848, 4879, 4880, 4881, 4882, 4886, 4888, 4895, 4896, 4935,
  4936, 4955, 4961, 4989, 5024, 5109, 5121, 5751, 5760, 5789, 5792, 5873, 6016, 6109, 6112,
  6122, 6144, 6159, 6160, 6170, 6176, 6264, 6272, 6314, 8239, 8240, 8264, 8270, 8365, 8368,
  8418, 8420, 8505, 8507, 8579, 8580, 8683, 8692, 8961, 8962, 9083, 9084, 9085, 9115, 9253,
  9255, 9712, 9720, 9753, 9754, 9840, 9842, 10240, 10496, 11904, 11930, 11931, 12020, 12032,
  12246, 12272, 12284, 12344, 12347, 12350, 12351, 12704, 12728, 13312, 19894, 40960, 42125,
  42128, 42146, 42148, 42164, 42165, 42177, 42178, 42181, 42182, 42183, 64285, 64286, 65529,
  65532] }

/-- The characters that version 3.1 added. -/
def added3p1 : CodePoints := { changes := [
  1012, 1014, 64976, 65008, 66304, 66335, 66336, 66340, 66352, 66379, 66560, 66598, 66600,
  66638, 118784, 119030, 119040, 119079, 119082, 119262, 119808, 119893, 119894, 119965, 119966,
  119968, 119970, 119971, 119973, 119975, 119977, 119981, 119982, 119994, 119995, 119996,
  119997, 120001, 120002, 120004, 120005, 120070, 120071, 120075, 120077, 120085, 120086,
  120093, 120094, 120122, 120123, 120127, 120128, 120133, 120134, 120135, 120138, 120145,
  120146, 120484, 120488, 120778, 120782, 120832, 131072, 173783, 194560, 195102, 917505,
  917506, 917536, 917632] }

/-- The characters that version 3.2 added. -/
def added3p2 : CodePoints := { changes := [
  544, 545, 847, 848, 867, 880, 984, 986, 1014, 1015, 1162, 1164, 1221, 1223, 1225, 1227, 1229,
  1231, 1280, 1296, 1646, 1648, 1969, 1970, 4343, 4345, 5888, 5901, 5902, 5909, 5920, 5943,
  5952, 5972, 5984, 5997, 5998, 6001, 6002, 6004, 8263, 8264, 8270, 8275, 8279, 8280, 8287,
  8292, 8305, 8306, 8368, 8370, 8420, 8427, 8509, 8524, 8692, 8704, 8946, 8960, 9084, 9085,
  9115, 9167, 9451, 9471, 9622, 9632, 9720, 9728, 9750, 9752, 9842, 9854, 9856, 9866, 10088,
  10102, 10192, 10220, 10224, 10240, 10496, 11008, 12347, 12350, 12437, 12439, 12447, 12449,
  12543, 12544, 12784, 12800, 12881, 12896, 12977, 12992, 42146, 42148, 42164, 42165, 42177,
  42178, 42181, 42182, 64048, 64107, 65020, 65021, 65024, 65040, 65093, 65095, 65139, 65140,
  65375, 65377] }

/-- The characters that version 4.0 added. -/
def added4p0 : CodePoints := { changes := [
  545, 546, 564, 567, 686, 688, 751, 768, 848, 856, 861, 864, 1015, 1020, 1536, 1540, 1549,
  1558, 1622, 1625, 1774, 1776, 1791, 1792, 1837, 1840, 1869, 1872, 2308, 2309, 2493, 2494,
  2561, 2562, 2563, 2564, 2700, 2701, 2785, 2788, 2801, 2802, 2869, 2870, 2929, 2930, 3059,
  3067, 3260, 3262, 6109, 6110, 6128, 6138, 6400, 6429, 6432, 6444, 6448, 6460, 6464, 6465,
  6468, 6510, 6512, 6517, 6624, 6656, 7424, 7532, 8275, 8277, 8507, 8508, 9167, 9169, 9471,
  9472, 9748, 9750, 9866, 9874, 9888, 9890, 11008, 11022, 12829, 12831, 12880, 12881, 12924,
  12926, 13004, 13008, 13175, 13179, 13278, 13280, 13311, 13312, 19904, 19968, 65021, 65022,
  65095, 65097, 65536, 65548, 65549, 65575, 65576, 65595, 65596, 65598, 65599, 65614, 65616,
  65630, 65664, 65787, 65792, 65795, 65799, 65844, 65847, 65856, 66432, 66462, 66463, 66464,
  66598, 66600, 66638, 66718, 66720, 66730, 67584, 67590, 67592, 67593, 67594, 67638, 67639,
  67641, 67644, 67645, 67647, 67648, 119552, 119639, 120001, 120002, 917760, 918000] }

/-- The characters that version 4.1 added. -/
def added4p1 : CodePoints := { changes := [
  567, 578, 856, 861, 1020, 1024, 1270, 1272, 1442, 1443, 1477, 1480, 1547, 1548, 1566, 1567,
  1625, 1631, 1872, 1902, 2429, 2430, 2510, 2511, 2998, 2999, 3046, 3047, 4048, 4050, 4345,
  4347, 4348, 4349, 4615, 4616, 4679, 4680, 4743, 4744, 4783, 4784, 4815, 4816, 4847, 4848,
  4879, 4880, 4895, 4896, 4935, 4936, 4959, 4961, 4992, 5018, 6528, 6570, 6576, 6602, 6608,
  6618, 6622, 6624, 6656, 6684, 6686, 6688, 7532, 7620, 8277, 8279, 8280, 8287, 8336, 8341,
  8370, 8374, 8427, 8428, 8508, 8509, 8524, 8525, 9169, 9180, 9752, 9753, 9854, 9856, 9874,
  9885, 9890, 9906, 10176, 10183, 11022, 11028, 11264, 11311, 11312, 11359, 11392, 11499, 11513,
  11558, 11568, 11622, 11631, 11632, 11648, 11671, 11680, 11687, 11688, 11695, 11696, 11703,
  11704, 11711, 11712, 11719, 11720, 11727, 11728, 11735, 11736, 11743, 11776, 11800, 11804,
  11806, 12736, 12752, 12926, 12927, 40870, 40892, 42752, 42775, 43008, 43052, 64112, 64218,
  65040, 65050, 65856, 65931, 66464, 66500, 66504, 66518, 68096, 68100, 68101, 68103, 68108,
  68116, 68117, 68120, 68121, 68148, 68152, 68155, 68159, 68168, 68176, 68185, 119296, 119366,
  120484, 120486] }

/-- The characters that version 5.0 added. -/
def added5p0 : CodePoints := { changes := [
  578, 592, 891, 894, 1231, 1232, 1274, 1280, 1296, 1300, 1466, 1467, 1984, 2043, 2427, 2429,
  2430, 2432, 3298, 3300, 3313, 3315, 6912, 6988, 6992, 7037, 7620, 7627, 7678, 7680, 8428,
  8432, 8525, 8527, 8580, 8581, 9180, 9192, 9906, 9907, 10183, 10187, 11028, 11035, 11040,
  11044, 11360, 11373, 11380, 11384, 42775, 42779, 42784, 42786, 43072, 43128, 67840, 67866,
  67871, 67872, 73728, 74607, 74752, 74851, 74864, 74868, 119648, 119666, 120778, 120780] }

/-- The characters that version 5.1 added. -/
def added5p1 : CodePoints := { changes := [
  880, 884, 886, 888, 975, 976, 1159, 1160, 1300, 1316, 1542, 1547, 1558, 1563, 1595, 1600,
  1902, 1920, 2417, 2419, 2641, 2642, 2677, 2678, 2884, 2885, 2914, 2916, 3024, 3025, 3133,
  3134, 3160, 3162, 3170, 3172, 3192, 3200, 3389, 3390, 3396, 3397, 3426, 3428, 3440, 3446,
  3449, 3456, 3947, 3949, 4046, 4047, 4050, 4053, 4130, 4131, 4136, 4137, 4139, 4140, 4147,
  4150, 4154, 4160, 4186, 4250, 4254, 4256, 6314, 6315, 7040, 7083, 7086, 7098, 7168, 7224,
  7227, 7242, 7245, 7296, 7627, 7655, 7836, 7840, 7930, 7936, 8292, 8293, 8432, 8433, 8527,
  8528, 8581, 8585, 9885, 9886, 9907, 9917, 9920, 9924, 10188, 10189, 10220, 10224, 11035,
  11040, 11044, 11085, 11088, 11093, 11373, 11376, 11377, 11380, 11384, 11390, 11744, 11776,
  11800, 11804, 11806, 11825, 12589, 12590, 12752, 12772, 40892, 40900, 42240, 42540, 42560,
  42592, 42594, 42612, 42620, 42648, 42779, 42784, 42786, 42893, 43003, 43008, 43136, 43205,
  43214, 43226, 43264, 43348, 43359, 43360, 43520, 43575, 43584, 43598, 43600, 43610, 43612,
  43616, 65060, 65063, 65936, 65948, 66000, 66046, 66176, 66205, 66208, 66257, 67872, 67898,
  67903, 67904, 119081, 119082, 126976, 127020, 127024, 127124] }

/-- The characters that version 5.2 added. -/
def added5p2 : CodePoints := { changes := [
  1316, 1318, 2048, 2094, 2096, 2111, 2304, 2305, 2382, 2383, 2389, 2390, 2425, 2427, 2555,
  2556, 4053, 4057, 4250, 4254, 4442, 4447, 4515, 4520, 4602, 4608, 5120, 5121, 5751, 5760,
  6320, 6390, 6570, 6572, 6618, 6619, 6688, 6751, 6752, 6781, 6783, 6794, 6800, 6810, 6816,
  6830, 7376, 7411, 7677, 7678, 8374, 8377, 8528, 8531, 8585, 8586, 9192, 9193, 9886, 9888,
  9917, 9920, 9924, 9934, 9935, 9954, 9955, 9956, 9960, 9984, 10071, 10072, 11093, 11098, 11376,
  11377, 11390, 11392, 11499, 11506, 11825, 11826, 12868, 12880, 40900, 40908, 42192, 42240,
  42656, 42744, 43056, 43066, 43232, 43260, 43360, 43389, 43392, 43470, 43471, 43482, 43486,
  43488, 43616, 43644, 43648, 43715, 43739, 43744, 43968, 44014, 44016, 44026, 55216, 55239,
  55243, 55292, 64107, 64110, 67648, 67670, 67671, 67680, 67866, 67868, 68192, 68224, 68352,
  68406, 68409, 68438, 68440, 68467, 68472, 68480, 68608, 68681, 69216, 69247, 69760, 69826,
  77824, 78895, 127232, 127243, 127248, 127279, 127281, 127282, 127293, 127294, 127295, 127296,
  127298, 127299, 127302, 127303, 127306, 127311, 127319, 127320, 127327, 127328, 127353,
  127354, 127355, 127357, 127359, 127360, 127370, 127374, 127376, 127377, 127488, 127489,
  127504, 127538, 127552, 127561, 173824, 177973] }

/-- The characters that version 6.0 added. -/
def added6p0 : CodePoints := { changes := [
  1318, 1320, 1568, 1569, 1631, 1632, 2112, 2140, 2142, 2143, 2362, 2364, 2383, 2384, 2390,
  2392, 2419, 2424, 2930, 2936, 3369, 3370, 3386, 3387, 3406, 3407, 3980, 3984, 4057, 4059,
  4957, 4959, 7104, 7156, 7164, 7168, 7676, 7677, 8341, 8349, 8377, 8378, 9193, 9204, 9934,
  9935, 9954, 9955, 9956, 9960, 9989, 9990, 9994, 9996, 10024, 10025, 10060, 10061, 10062,
  10063, 10067, 10070, 10079, 10081, 10133, 10136, 10160, 10161, 10175, 10176, 10190, 10192,
  11632, 11633, 11647, 11648, 12728, 12731, 42592, 42594, 42893, 42895, 42896, 42898, 42912,
  42922, 43002, 43003, 43777, 43783, 43785, 43791, 43793, 43799, 43808, 43815, 43816, 43823,
  64434, 64450, 69632, 69710, 69714, 69744, 92160, 92729, 110592, 110594, 127136, 127151,
  127153, 127167, 127169, 127184, 127185, 127200, 127280, 127281, 127282, 127293, 127294,
  127295, 127296, 127298, 127299, 127302, 127303, 127306, 127311, 127319, 127320, 127327,
  127328, 127338, 127344, 127353, 127354, 127355, 127357, 127359, 127360, 127370, 127374,
  127376, 127377, 127387, 127462, 127488, 127489, 127491, 127538, 127547, 127568, 127570,
  127744, 127777, 127792, 127798, 127799, 127869, 127872, 127892, 127904, 127941, 127942,
  127947, 127968, 127985, 128000, 128063, 128064, 128065, 128066, 128248, 128249, 128253,
  128256, 128318, 128336, 128360, 128507, 128512, 128513, 128529, 128530, 128533, 128534,
  128535, 128536, 128537, 128538, 128539, 128540, 128543, 128544, 128550, 128552, 128556,
  128557, 128558, 128560, 128564, 128565, 128577, 128581, 128592, 128640, 128710, 128768,
  128884, 177984, 178206] }

/-- The characters that version 6.1 added. -/
def added6p1 : CodePoints := { changes := [
  1423, 1424, 1540, 1541, 2208, 2209, 2210, 2221, 2276, 2303, 2800, 2801, 3806, 3808, 4295,
  4296, 4301, 4302, 4349, 4352, 7083, 7086, 7098, 7104, 7360, 7368, 7411, 7415, 10187, 10188,
  10189, 10190, 11506, 11508, 11559, 11560, 11565, 11566, 11622, 11624, 11826, 11836, 40908,
  40909, 42612, 42620, 42655, 42656, 42898, 42900, 42922, 42923, 43000, 43002, 43744, 43767,
  64046, 64048, 67968, 68024, 68030, 68032, 69840, 69865, 69872, 69882, 69888, 69941, 69942,
  69956, 70016, 70089, 70096, 70106, 71296, 71352, 71360, 71370, 93952, 94021, 94032, 94079,
  94095, 94112, 126464, 126468, 126469, 126496, 126497, 126499, 126500, 126501, 126503, 126504,
  126505, 126515, 126516, 126520, 126521, 126522, 126523, 126524, 126530, 126531, 126535,
  126536, 126537, 126538, 126539, 126540, 126541, 126544, 126545, 126547, 126548, 126549,
  126551, 126552, 126553, 126554, 126555, 126556, 126557, 126558, 126559, 126560, 126561,
  126563, 126564, 126565, 126567, 126571, 126572, 126579, 126580, 126584, 126585, 126589,
  126590, 126591, 126592, 126602, 126603, 126620, 126625, 126628, 126629, 126634, 126635,
  126652, 126704, 126706, 127338, 127340, 128320, 128324, 128512, 128513, 128529, 128530,
  128533, 128534, 128535, 128536, 128537, 128538, 128539, 128540, 128543, 128544, 128550,
  128552, 128556, 128557, 128558, 128560, 128564, 128565] }

/-- The characters that version 6.2 added. -/
def added6p2 : CodePoints := { changes := [
  8378, 8379] }

/-- The characters that version 6.3 added. -/
def added6p3 : CodePoints := { changes := [
  1564, 1565, 8294, 8298] }

/-- The characters that version 7.0 added. -/
def added7p0 : CodePoints := { changes := [
  895, 896, 1320, 1328, 1421, 1423, 1541, 1542, 2209, 2210, 2221, 2227, 2303, 2304, 2424, 2425,
  2432, 2433, 3072, 3073, 3124, 3125, 3201, 3202, 3329, 3330, 3558, 3568, 5873, 5881, 6429,
  6431, 6832, 6847, 7416, 7418, 7655, 7670, 8379, 8382, 9204, 9211, 9984, 9985, 11085, 11088,
  11098, 11124, 11126, 11158, 11160, 11194, 11197, 11209, 11210, 11218, 11836, 11843, 42648,
  42654, 42900, 42912, 42923, 42926, 42928, 42930, 42999, 43000, 43488, 43519, 43644, 43648,
  43824, 43872, 43876, 43878, 65063, 65070, 65931, 65933, 65952, 65953, 66272, 66300, 66335,
  66336, 66384, 66427, 66816, 66856, 66864, 66916, 66927, 66928, 67072, 67383, 67392, 67414,
  67424, 67432, 67680, 67743, 67751, 67760, 68224, 68256, 68288, 68327, 68331, 68343, 68480,
  68498, 68505, 68509, 68521, 68528, 69759, 69760, 69968, 70007, 70093, 70094, 70106, 70107,
  70113, 70133, 70144, 70162, 70163, 70206, 70320, 70379, 70384, 70394, 70401, 70404, 70405,
  70413, 70415, 70417, 70419, 70441, 70442, 70449, 70450, 70452, 70453, 70458, 70460, 70469,
  70471, 70473, 70475, 70478, 70487, 70488, 70493, 70500, 70502, 70509, 70512, 70517, 70784,
  70856, 70864, 70874, 71040, 71094, 71096, 71114, 71168, 71237, 71248, 71258, 71840, 71923,
  71935, 71936, 72384, 72441, 74607, 74649, 74851, 74863, 74868, 74869, 92736, 92767, 92768,
  92778, 92782, 92784, 92880, 92910, 92912, 92918, 92928, 92998, 93008, 93018, 93019, 93026,
  93027, 93048, 93053, 93072, 113664, 113771, 113776, 113789, 113792, 113801, 113808, 113818,
  113820, 113828, 124928, 125125, 125127, 125143, 127167, 127168, 127200, 127222, 127243,
  127245, 127777, 127789, 127798, 127799, 127869, 127870, 127892, 127904, 127941, 127942,
  127947, 127951, 127956, 127968, 127985, 127992, 128063, 128064, 128065, 128066, 128248,
  128249, 128253, 128255, 128318, 128320, 128324, 128331, 128360, 128378, 128379, 128420,
  128421, 128507, 128577, 128579, 128592, 128640, 128710, 128720, 128736, 128749, 128752,
  128756, 128896, 128981, 129024, 129036, 129040, 129096, 129104, 129114, 129120, 129160,
  129168, 129198] }

/-- The characters that version 8.0 added. -/
def added8p0 : CodePoints := { changes := [
  2227, 2229, 2275, 2276, 2809, 2810, 3162, 3163, 3423, 3424, 5109, 5110, 5112, 5118, 8382,
  8383, 8586, 8588, 11244, 11248, 40909, 40918, 42654, 42655, 42895, 42896, 42930, 42936, 43260,
  43262, 43872, 43876, 43888, 43968, 65070, 65072, 67808, 67827, 67828, 67830, 67835, 67840,
  68028, 68030, 68032, 68048, 68050, 68096, 68736, 68787, 68800, 68851, 68858, 68864, 70089,
  70093, 70107, 70112, 70272, 70279, 70280, 70281, 70282, 70286, 70287, 70302, 70303, 70314,
  70400, 70401, 70480, 70481, 71114, 71134, 71424, 71450, 71453, 71468, 71472, 71488, 74649,
  74650, 74880, 75076, 82944, 83527, 119262, 119273, 120832, 121484, 121499, 121504, 121505,
  121520, 127789, 127792, 127870, 127872, 127951, 127956, 127992, 128000, 128255, 128256,
  128331, 128336, 128579, 128581, 128720, 128721, 129296, 129305, 129408, 129413, 129472,
  129473, 178208, 183970] }

/-- The characters that version 9.0 added. -/
def added9p0 : CodePoints := { changes := [
  2230, 2238, 2260, 2275, 3200, 3201, 3407, 3408, 3412, 3415, 3416, 3423, 3446, 3449, 7296,
  7305, 7675, 7676, 9211, 9215, 11843, 11845, 42926, 42927, 43205, 43206, 65933, 65935, 66736,
  66772, 66776, 66812, 70206, 70207, 70656, 70746, 70747, 70748, 70749, 70750, 71264, 71277,
  72704, 72713, 72714, 72759, 72760, 72774, 72784, 72813, 72816, 72848, 72850, 72872, 72873,
  72887, 94176, 94177, 94208, 100333, 100352, 101107, 122880, 122887, 122888, 122905, 122907,
  122914, 122915, 122917, 122918, 122923, 125184, 125259, 125264, 125274, 125278, 125280,
  127387, 127405, 127547, 127548, 128378, 128379, 128420, 128421, 128721, 128723, 128756,
  128759, 129305, 129311, 129312, 129320, 129328, 129329, 129331, 129343, 129344, 129356,
  129360, 129375, 129413, 129426] }

/-- The characters that version 10.0 added. -/
def added10p0 : CodePoints := { changes := [
  2144, 2155, 2556, 2558, 2810, 2816, 3328, 3329, 3387, 3389, 7415, 7416, 7670, 7674, 8383,
  8384, 9215, 9216, 11218, 11219, 11845, 11850, 12590, 12591, 40918, 40939, 66349, 66352, 72192,
  72264, 72272, 72324, 72326, 72349, 72350, 72355, 72960, 72967, 72968, 72970, 72971, 73015,
  73018, 73019, 73020, 73022, 73023, 73032, 73040, 73050, 94177, 94178, 110594, 110879, 110960,
  111356, 127584, 127590, 128723, 128725, 128759, 128761, 129280, 129292, 129311, 129312,
  129320, 129328, 129329, 129331, 129356, 129357, 129375, 129388, 129426, 129432, 129488,
  129511, 183984, 191457] }

/-- The characters that version 11.0 added. -/
def added11p0 : CodePoints := { changes := [
  1376, 1377, 1416, 1417, 1519, 1520, 2045, 2048, 2259, 2260, 2558, 2559, 2678, 2679, 3076,
  3077, 3204, 3205, 6264, 6265, 7312, 7355, 7357, 7360, 11194, 11197, 11219, 11244, 11248,
  11263, 11850, 11855, 12591, 12592, 40939, 40944, 42927, 42928, 42936, 42938, 43262, 43264,
  68148, 68150, 68168, 68169, 68864, 68904, 68912, 68922, 69376, 69416, 69424, 69466, 69837,
  69838, 69956, 69959, 70459, 70460, 70750, 70751, 71450, 71451, 71680, 71740, 72349, 72350,
  73056, 73062, 73063, 73065, 73066, 73103, 73104, 73106, 73107, 73113, 73120, 73130, 73440,
  73465, 93760, 93851, 100333, 100338, 119520, 119540, 119666, 119673, 126065, 126133, 127279,
  127280, 128761, 128762, 128981, 128985, 129357, 129360, 129388, 129393, 129395, 129399,
  129402, 129403, 129404, 129408, 129432, 129443, 129456, 129466, 129473, 129475, 129511,
  129536, 129632, 129646] }

/-- The characters that version 12.0 added. -/
def added12p0 : CodePoints := { changes := [
  3191, 3192, 3718, 3719, 3721, 3722, 3724, 3725, 3726, 3732, 3736, 3737, 3744, 3745, 3752,
  3754, 3756, 3757, 3770, 3771, 7418, 7419, 11209, 11210, 11263, 11264, 11855, 11856, 42938,
  42944, 42946, 42951, 43878, 43880, 69600, 69623, 70751, 70752, 71352, 71353, 72096, 72104,
  72106, 72152, 72154, 72165, 72324, 72326, 73664, 73714, 73727, 73728, 78896, 78905, 94021,
  94027, 94031, 94032, 94079, 94088, 94178, 94180, 100338, 100344, 110928, 110931, 110948,
  110952, 123136, 123181, 123184, 123198, 123200, 123210, 123214, 123216, 123584, 123642,
  123647, 123648, 125259, 125260, 126209, 126270, 127340, 127341, 128725, 128726, 128762,
  128763, 128992, 129004, 129293, 129296, 129343, 129344, 129393, 129394, 129403, 129404,
  129445, 129451, 129454, 129456, 129466, 129472, 129475, 129483, 129485, 129488, 129536,
  129620, 129648, 129652, 129656, 129659, 129664, 129667, 129680, 129686] }

/-- The characters that version 12.1 added. -/
def added12p1 : CodePoints := { changes := [
  13055, 13056] }

/-- The characters that version 13.0 added. -/
def added13p0 : CodePoints := { changes := [
  2238, 2248, 2901, 2902, 3332, 3333, 3457, 3458, 6847, 6849, 11159, 11160, 11856, 11859, 12731,
  12736, 19894, 19904, 40944, 40957, 42951, 42955, 42997, 42999, 43052, 43053, 43880, 43884,
  65948, 65949, 69248, 69290, 69291, 69294, 69296, 69298, 69552, 69580, 69959, 69960, 70094,
  70096, 70746, 70747, 70752, 70754, 71936, 71943, 71945, 71946, 71948, 71956, 71957, 71959,
  71960, 71990, 71991, 71993, 71995, 72007, 72016, 72026, 73648, 73649, 94180, 94181, 94192,
  94194, 101107, 101590, 101632, 101641, 127245, 127248, 127341, 127344, 127405, 127406, 128726,
  128728, 128763, 128765, 129200, 129202, 129292, 129293, 129394, 129395, 129399, 129401,
  129443, 129445, 129451, 129454, 129483, 129484, 129652, 129653, 129667, 129671, 129686,
  129705, 129712, 129719, 129728, 129731, 129744, 129751, 129792, 129939, 129940, 129995,
  130032, 130042, 173783, 173790, 196608, 201547] }

/-- The characters that version 14.0 added. -/
def added14p0 : CodePoints := { changes := [
  1565, 1566, 2160, 2191, 2192, 2194, 2200, 2208, 2229, 2230, 2248, 2259, 3132, 3133, 3165,
  3166, 3293, 3294, 5901, 5902, 5909, 5910, 5919, 5920, 6159, 6160, 6849, 6863, 6988, 6989,
  7037, 7039, 7674, 7675, 8384, 8385, 11311, 11312, 11359, 11360, 11859, 11870, 40957, 40960,
  42944, 42946, 42960, 42962, 42963, 42964, 42965, 42970, 42994, 42997, 64450, 64451, 64832,
  64848, 64975, 64976, 65022, 65024, 66928, 66939, 66940, 66955, 66956, 66963, 66964, 66966,
  66967, 66978, 66979, 66994, 66995, 67002, 67003, 67005, 67456, 67462, 67463, 67505, 67506,
  67515, 69488, 69514, 69744, 69750, 69826, 69827, 71353, 71354, 71488, 71495, 72368, 72384,
  77712, 77811, 92784, 92863, 92864, 92874, 110576, 110580, 110581, 110588, 110589, 110591,
  110879, 110883, 118528, 118574, 118576, 118599, 118608, 118724, 119273, 119275, 122624,
  122655, 123536, 123567, 124896, 124903, 124904, 124908, 124909, 124911, 124912, 124927,
  128733, 128736, 129008, 129009, 129401, 129402, 129484, 129485, 129659, 129661, 129705,
  129709, 129719, 129723, 129731, 129734, 129751, 129754, 129760, 129768, 129776, 129783,
  173790, 173792, 177973, 177977] }

/-- The characters that version 15.0 added. -/
def added15p0 : CodePoints := { changes := [
  3315, 3316, 3790, 3791, 69373, 69376, 70207, 70210, 72448, 72458, 73472, 73489, 73490, 73531,
  73534, 73562, 78895, 78896, 78905, 78934, 110898, 110899, 110933, 110934, 119488, 119508,
  122661, 122667, 122928, 122990, 123023, 123024, 124112, 124154, 128732, 128733, 128884,
  128887, 128891, 128896, 128985, 128986, 129653, 129656, 129671, 129673, 129709, 129712,
  129723, 129726, 129727, 129728, 129742, 129744, 129754, 129756, 129768, 129769, 129783,
  129785, 177977, 177978, 201552, 205744] }

/-- The characters that version 15.1 added. -/
def added15p1 : CodePoints := { changes := [
  12284, 12288, 12783, 12784, 191472, 192094] }

/-- The characters that version 16.0 added. -/
def added16p0 : CodePoints := { changes := [
  2199, 2200, 6990, 6992, 7039, 7040, 7305, 7307, 9255, 9258, 12772, 12774, 42955, 42958, 42970,
  42973, 67008, 67060, 68928, 68966, 68969, 68998, 69006, 69008, 69314, 69317, 69372, 69373,
  70528, 70538, 70539, 70540, 70542, 70543, 70544, 70582, 70583, 70593, 70594, 70595, 70597,
  70598, 70599, 70603, 70604, 70614, 70615, 70617, 70625, 70627, 71376, 71396, 72640, 72674,
  72688, 72698, 73562, 73563, 78944, 82939, 90368, 90426, 93504, 93562, 101631, 101632, 117760,
  118010, 118016, 118452, 124368, 124411, 124415, 124416, 129202, 129212, 129216, 129218,
  129673, 129674, 129679, 129680, 129726, 129727, 129734, 129735, 129756, 129757, 129759,
  129760, 129769, 129770, 129995, 130032] }

/-- The versions by their two names, oldest first, each with the characters that it added. -/
def versions : List (List String × CodePoints) := [
  (["V1_1", "1.1"], added1p1), (["V2_0", "2.0"], added2p0), (["V2_1", "2.1"], added2p1),
  (["V3_0", "3.0"], added3p0), (["V3_1", "3.1"], added3p1), (["V3_2", "3.2"], added3p2),
  (["V4_0", "4.0"], added4p0), (["V4_1", "4.1"], added4p1), (["V5_0", "5.0"], added5p0),
  (["V5_1", "5.1"], added5p1), (["V5_2", "5.2"], added5p2), (["V6_0", "6.0"], added6p0),
  (["V6_1", "6.1"], added6p1), (["V6_2", "6.2"], added6p2), (["V6_3", "6.3"], added6p3),
  (["V7_0", "7.0"], added7p0), (["V8_0", "8.0"], added8p0), (["V9_0", "9.0"], added9p0),
  (["V10_0", "10.0"], added10p0), (["V11_0", "11.0"], added11p0),
  (["V12_0", "12.0"], added12p0), (["V12_1", "12.1"], added12p1),
  (["V13_0", "13.0"], added13p0), (["V14_0", "14.0"], added14p0),
  (["V15_0", "15.0"], added15p0), (["V15_1", "15.1"], added15p1), (["V16_0", "16.0"], added16p0)]

end TreeQuery.Text.Age
