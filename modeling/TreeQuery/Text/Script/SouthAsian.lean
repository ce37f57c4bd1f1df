import TreeQuery.Text.Script.Basic

/-!
# South Asian scripts

The scripts of the Indian subcontinent.
-/

namespace TreeQuery.Text.Script

/-- The script Ahom. -/
def ahom : Script where
  names := ["Ahom"]
  characters := { changes := [
    71424, 71451, 71453, 71468, 71472, 71495] }

/-- The script Bengali. -/
def bengali : Script where
  names := ["Beng", "Bengali"]
  characters := { changes := [
    2432, 2436, 2437, 2445, 2447, 2449, 2451, 2473, 2474, 2481, 2482, 2483, 2486, 2490, 2492,
    2501, 2503, 2505, 2507, 2511, 2519, 2520, 2524, 2526, 2527, 2532, 2534, 2559] }
  borrowed := { changes := [
    700, 701, 2385, 2387, 2404, 2406, 7376, 7377, 7378, 7379, 7381, 7383, 7384, 7385, 7393,
    7394, 7402, 7403, 7405, 7406, 7410, 7411, 7413, 7416, 43249, 43250] }

/-- The script Bhaiksuki. -/
def bhaiksuki : Script where
  names := ["Bhks", "Bhaiksuki"]
  characters := { changes := [
    72704, 72713, 72714, 72759, 72760, 72774, 72784, 72813] }

/-- The script Brahmi. -/
def brahmi : Script where
  names := ["Brah", "Brahmi"]
  characters := { changes := [
    69632, 69710, 69714, 69750, 69759, 69760] }

/-- The script Chakma. -/
def chakma : Script where
  names := ["Cakm", "Chakma"]
  characters := { changes := [
    69888, 69941, 69942, 69960] }
  borrowed := { changes := [
    2534, 2544, 4160, 4170] }

/-- The script Devanagari. -/
def devanagari : Script where
  names := ["Deva", "Devanagari"]
  characters := { changes := [
    2304, 2385, 2389, 2404, 2406, 2432, 43232, 43264, 72448, 72458] }
  borrowed := { changes := [
    700, 701, 2385, 2387, 2404, 2406, 7376, 7415, 7416, 7418, 8432, 8433, 43056, 43066] }

/-- The script Dives Akuru. -/
def divesAkuru : Script where
  names := ["Diak", "Dives_Akuru"]
  characters := { changes := [
    71936, 71943, 71945, 71946, 71948, 71956, 71957, 71959, 71960, 71990, 71991, 71993, 71995,
    72007, 72016, 72026] }

/-- The script Dogra. -/
def dogra : Script where
  names := ["Dogr", "Dogra"]
  characters := { changes := [
    71680, 71740] }
  borrowed := { changes := [
    2404, 2416, 43056, 43066] }

/-- The script Gunjala Gondi. -/
def gunjalaGondi : Script where
  names := ["Gong", "Gunjala_Gondi"]
  characters := { changes := [
    73056, 73062, 73063, 73065, 73066, 73103, 73104, 73106, 73107, 73113, 73120, 73130] }
  borrowed := { changes := [
    183, 184, 2404, 2406] }

/-- The script Masaram Gondi. -/
def masaramGondi : Script where
  names := ["Gonm", "Masaram_Gondi"]
  characters := { changes := [
    72960, 72967, 72968, 72970, 72971, 73015, 73018, 73019, 73020, 73022, 73023, 73032, 73040,
    73050] }
  borrowed := { changes := [
    2404, 2406] }

/-- The script Grantha. -/
def grantha : Script where
  names := ["Gran", "Grantha"]
  characters := { changes := [
    70400, 70404, 70405, 70413, 70415, 70417, 70419, 70441, 70442, 70449, 70450, 70452, 70453,
    70458, 70460, 70469, 70471, 70473, 70475, 70478, 70480, 70481, 70487, 70488, 70493, 70500,
    70502, 70509, 70512, 70517] }
  borrowed := { changes := [
    2385, 2387, 2404, 2406, 3046, 3060, 7376, 7377, 7378, 7380, 7410, 7413, 7416, 7418, 8432,
    8433, 70459, 70460, 73680, 73682, 73683, 73684] }

/-- The script Gujarati. -/
def gujarati : Script where
  names := ["Gujr", "Gujarati"]
  characters := { changes := [
    2689, 2692, 2693, 2702, 2703, 2706, 2707, 2729, 2730, 2737, 2738, 2740, 2741, 2746, 2748,
    2758, 2759, 2762, 2763, 2766, 2768, 2769, 2784, 2788, 2790, 2802, 2809, 2816] }
  borrowed := { changes := [
    2385, 2387, 2404, 2406, 43056, 43066] }

/-- The script Gurung Khema. -/
def gurungKhema : Script where
  names := ["Gukh", "Gurung_Khema"]
  characters := { changes := [
    90368, 90426] }
  borrowed := { changes := [
    2405, 2406] }

/-- The script Gurmukhi. -/
def gurmukhi : Script where
  names := ["Guru", "Gurmukhi"]
  characters := { changes := [
    2561, 2564, 2565, 2571, 2575, 2577, 2579, 2601, 2602, 2609, 2610, 2612, 2613, 2615, 2616,
    2618, 2620, 2621, 2622, 2627, 2631, 2633, 2635, 2638, 2641, 2642, 2649, 2653, 2654, 2655,
    2662, 2679] }
  borrowed := { changes := [
    2385, 2387, 2404, 2406, 43056, 43066] }

/-- The script Kharoshthi. -/
def kharoshthi : Script where
  names := ["Khar", "Kharoshthi"]
  characters := { changes := [
    68096, 68100, 68101, 68103, 68108, 68116, 68117, 68120, 68121, 68150, 68152, 68155, 68159,
    68169, 68176, 68185] }

/-- The script Khojki. -/
def khojki : Script where
  names := ["Khoj", "Khojki"]
  characters := { changes := [
    70144, 70162, 70163, 70210] }
  borrowed := { changes := [
    2790, 2800, 43056, 43066] }

/-- The script Kannada. -/
def kannada : Script where
  names := ["Knda", "Kannada"]
  characters := { changes := [
    3200, 3213, 3214, 3217, 3218, 3241, 3242, 3252, 3253, 3258, 3260, 3269, 3270, 3273, 3274,
    3278, 3285, 3287, 3293, 3295, 3296, 3300, 3302, 3312, 3313, 3316] }
  borrowed := { changes := [
    2385, 2387, 2404, 2406, 7376, 7377, 7378, 7380, 7386, 7387, 7410, 7411, 7412, 7413, 43056,
    43062] }

/-- The script Kirat Rai. -/
def kiratRai : Script where
  names := ["Krai", "Kirat_Rai"]
  characters := { changes := [
    93504, 93562] }

/-- The script Kaithi. -/
def kaithi : Script where
  names := ["Kthi", "Kaithi"]
  characters := { changes := [
    69760, 69827, 69837, 69838] }
  borrowed := { changes := [
    2406, 2416, 11825, 11826, 43056, 43066] }

/-- The script Lepcha. -/
def lepcha : Script where
  names := ["Lepc", "Lepcha"]
  characters := { changes := [
    7168, 7224, 7227, 7242, 7245, 7248] }

/-- The script Limbu. -/
def limbu : Script where
  names := ["Limb", "Limbu"]
  characters := { changes := [
    6400, 6431, 6432, 6444, 6448, 6460, 6464, 6465, 6468, 6480] }
  borrowed := { changes := [
    2405, 2406] }

/-- The script Mahajani. -/
def mahajani : Script where
  names := ["Mahj", "Mahajani"]
  characters := { changes := [
    69968, 70007] }
  borrowed := { changes := [
    183, 184, 2404, 2416, 43056, 43066] }

/-- The script Malayalam. -/
def malayalam : Script where
  names := ["Mlym", "Malayalam"]
  characters := { changes := [
    3328, 3341, 3342, 3345, 3346, 3397, 3398, 3401, 3402, 3408, 3412, 3428, 3430, 3456] }
  borrowed := { changes := [
    2385, 2387, 2404, 2406, 7386, 7387, 7410, 7411, 43056, 43059] }

/-- The script Modi. -/
def modi : Script where
  names := ["Modi"]
  characters := { changes := [
    71168, 71237, 71248, 71258] }
  borrowed := { changes := [
    43056, 43066] }

/-- The script Mro. -/
def mro : Script where
  names := ["Mroo", "Mro"]
  characters := { changes := [
    92736, 92767, 92768, 92778, 92782, 92784] }

/-- The script Meetei Mayek. -/
def meeteiMayek : Script where
  names := ["Mtei", "Meetei_Mayek"]
  characters := { changes := [
    43744, 43767, 43968, 44014, 44016, 44026] }

/-- The script Multani. -/
def multani : Script where
  names := ["Mult", "Multani"]
  characters := { changes := [
    70272, 70279, 70280, 70281, 70282, 70286, 70287, 70302, 70303, 70314] }
  borrowed := { changes := [
    2662, 2672] }

/-- The script Nag Mundari. -/
def nagMundari : Script where
  names := ["Nagm", "Nag_Mundari"]
  characters := { changes := [
    124112, 124154] }

/-- The script Nandinagari. -/
def nandinagari : Script where
  names := ["Nand", "Nandinagari"]
  characters := { changes := [
    72096, 72104, 72106, 72152, 72154, 72165] }
  borrowed := { changes := [
    2385, 2386, 2404, 2406, 3302, 3312, 7401, 7402, 7410, 7411, 7418, 7419, 43056, 43062] }

/-- The script Newa. -/
def newa : Script where
  names := ["Newa"]
  characters := { changes := [
    70656, 70748, 70749, 70754] }
  borrowed := { changes := [
    2385, 2387, 7381, 7382, 7383, 7385, 7394, 7395, 7401, 7402, 7403, 7404, 7405, 7406] }

/-- The script Ol Chiki. -/
def olChiki : Script where
  names := ["Olck", "Ol_Chiki"]
  characters := { changes := [
    7248, 7296] }

/-- The script Ol Onal. -/
def olOnal : Script where
  names := ["Onao", "Ol_Onal"]
  characters := { changes := [
    124368, 124411, 124415, 124416] }
  borrowed := { changes := [
    2404, 2406] }

/-- The script Oriya. -/
def oriya : Script where
  names := ["Orya", "Oriya"]
  characters := { changes := [
    2817, 2820, 2821, 2829, 2831, 2833, 2835, 2857, 2858, 2865, 2866, 2868, 2869, 2874, 2876,
    2885, 2887, 2889, 2891, 2894, 2901, 2904, 2908, 2910, 2911, 2916, 2918, 2936] }
  borrowed := { changes := [
    2385, 2387, 2404, 2406, 7386, 7387, 7410, 7411] }

/-- The script Saurashtra. -/
def saurashtra : Script where
  names := ["Saur", "Saurashtra"]
  characters := { changes := [
    43136, 43206, 43214, 43226] }

/-- The script Sharada. -/
def sharada : Script where
  names := ["Shrd", "Sharada"]
  characters := { changes := [
    70016, 70112] }
  borrowed := { changes := [
    2385, 2386, 7383, 7384, 7385, 7386, 7388, 7390, 7392, 7393, 7402, 7403, 7405, 7406, 43056,
    43062, 43064, 43065] }

/-- The script Siddham. -/
def siddham : Script where
  names := ["Sidd", "Siddham"]
  characters := { changes := [
    71040, 71094, 71096, 71134] }

/-- The script Khudawadi. -/
def khudawadi : Script where
  names := ["Sind", "Khudawadi"]
  characters := { changes := [
    70320, 70379, 70384, 70394] }
  borrowed := { changes := [
    2404, 2406, 43056, 43066] }

/-- The script Sinhala. -/
def sinhala : Script where
  names := ["Sinh", "Sinhala"]
  characters := { changes := [
    3457, 3460, 3461, 3479, 3482, 3506, 3507, 3516, 3517, 3518, 3520, 3527, 3530, 3531, 3535,
    3541, 3542, 3543, 3544, 3552, 3558, 3568, 3570, 3573, 70113, 70133] }
  borrowed := { changes := [
    2404, 2406, 7410, 7411] }

/-- The script Sora Sompeng. -/
def soraSompeng : Script where
  names := ["Sora", "Sora_Sompeng"]
  characters := { changes := [
    69840, 69865, 69872, 69882] }

/-- The script Sunuwar. -/
def sunuwar : Script where
  names := ["Sunu", "Sunuwar"]
  characters := { changes := [
    72640, 72674, 72688, 72698] }
  borrowed := { changes := [
    768, 770, 771, 772, 781, 782, 784, 785, 813, 814, 817, 818] }

/-- The script Syloti Nagri. -/
def sylotiNagri : Script where
  names := ["Sylo", "Syloti_Nagri"]
  characters := { changes := [
    43008, 43053] }
  borrowed := { changes := [
    2404, 2406, 2534, 2544] }

/-- The script Takri. -/
def takri : Script where
  names := ["Takr", "Takri"]
  characters := { changes := [
    71296, 71354, 71360, 71370] }
  borrowed := { changes := [
    2404, 2406, 43056, 43066] }

/-- The script Tamil. -/
def tamil : Script where
  names := ["Taml", "Tamil"]
  characters := { changes := [
    2946, 2948, 2949, 2955, 2958, 2961, 2962, 2966, 2969, 2971, 2972, 2973, 2974, 2976, 2979,
    2981, 2984, 2987, 2990, 3002, 3006, 3011, 3014, 3017, 3018, 3022, 3024, 3025, 3031, 3032,
    3046, 3067, 73664, 73714, 73727, 73728] }
  borrowed := { changes := [
    2385, 2387, 2404, 2406, 7386, 7387, 43251, 43252, 70401, 70402, 70403, 70404, 70459, 70461] }

/-- The script Telugu. -/
def telugu : Script where
  names := ["Telu", "Telugu"]
  characters := { changes := [
    3072, 3085, 3086, 3089, 3090, 3113, 3114, 3130, 3132, 3141, 3142, 3145, 3146, 3150, 3157,
    3159, 3160, 3163, 3165, 3166, 3168, 3172, 3174, 3184, 3191, 3200] }
  borrowed := { changes := [
    2385, 2387, 2404, 2406, 7381, 7383, 7384, 7385, 7386, 7387, 7410, 7411] }

/-- The script Thaana. -/
def thaana : Script where
  names := ["Thaa", "Thaana"]
  characters := { changes := [
    1920, 1970] }
  borrowed := { changes := [
    1548, 1549, 1563, 1565, 1567, 1568, 1632, 1642, 65010, 65011, 65021, 65022] }

/-- The script Tirhuta. -/
def tirhuta : Script where
  names := ["Tirh", "Tirhuta"]
  characters := { changes := [
    70784, 70856, 70864, 70874] }
  borrowed := { changes := [
    2385, 2387, 2404, 2406, 7381, 7382, 7394, 7395, 7410, 7411, 43056, 43066] }

/-- The script Toto. -/
def toto : Script where
  names := ["Toto"]
  characters := { changes := [
    123536, 123567] }
  borrowed := { changes := [
    700, 701] }

/-- The script Tulu Tigalari. -/
def tuluTigalari : Script where
  names := ["Tutg", "Tulu_Tigalari"]
  characters := { changes := [
    70528, 70538, 70539, 70540, 70542, 70543, 70544, 70582, 70583, 70593, 70594, 70595, 70597,
    70598, 70599, 70603, 70604, 70614, 70615, 70617, 70625, 70627] }
  borrowed := { changes := [
    3302, 3312, 7410, 7411, 7412, 7413, 43056, 43062, 43249, 43250] }

/-- The script Warang Citi. -/
def warangCiti : Script where
  names := ["Wara", "Warang_Citi"]
  characters := { changes := [
    71840, 71923, 71935, 71936] }

/-- The script Wancho. -/
def wancho : Script where
  names := ["Wcho", "Wancho"]
  characters := { changes := [
    123584, 123642, 123647, 123648] }

/-- The script Tangsa. -/
def tangsa : Script where
  names := ["Tnsa", "Tangsa"]
  characters := { changes := [
    92784, 92863, 92864, 92874] }

/-- All scripts of the Indian subcontinent. -/
def southAsian : List Script := [
  ahom, bengali, bhaiksuki, brahmi, chakma, devanagari, divesAkuru, dogra, gunjalaGondi,
  masaramGondi, grantha, gujarati, gurungKhema, gurmukhi, kharoshthi, khojki, kannada, kiratRai,
  kaithi, lepcha, limbu, mahajani, malayalam, modi, mro, meeteiMayek, multani, nagMundari,
  nandinagari, newa, olChiki, olOnal, oriya, saurashtra, sharada, siddham, khudawadi, sinhala,
  soraSompeng, sunuwar, sylotiNagri, takri, tamil, telugu, thaana, tirhuta, toto, tuluTigalari,
  warangCiti, wancho, tangsa]

end TreeQuery.Text.Script
