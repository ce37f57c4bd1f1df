import TreeQuery.Text.Script.Basic

/-!
# Southeast Asian scripts

The scripts of Indochina, Indonesia and the Philippines.
-/

namespace TreeQuery.Text.Script

/-- The script Balinese. -/
def balinese : Script where
  names := ["Bali", "Balinese"]
  characters := { changes := [
    6912, 6989, 6990, 7040] }

/-- The script Batak. -/
def batak : Script where
  names := ["Batk", "Batak"]
  characters := { changes := [
    7104, 7156, 7164, 7168] }

/-- The script Buginese. -/
def buginese : Script where
  names := ["Bugi", "Buginese"]
  characters := { changes := [
    6656, 6684, 6686, 6688] }
  borrowed := { changes := [
    43471, 43472] }

/-- The script Buhid. -/
def buhid : Script where
  names := ["Buhd", "Buhid"]
  characters := { changes := [
    5952, 5972] }
  borrowed := { changes := [
    5941, 5943] }

/-- The script Cham. -/
def cham : Script where
  names := ["Cham"]
  characters := { changes := [
    43520, 43575, 43584, 43598, 43600, 43610, 43612, 43616] }

/-- The script Hanunoo. -/
def hanunoo : Script where
  names := ["Hano", "Hanunoo"]
  characters := { changes := [
    5920, 5941] }
  borrowed := { changes := [
    5941, 5943] }

/-- The script Javanese. -/
def javanese : Script where
  names := ["Java", "Javanese"]
  characters := { changes := [
    43392, 43470, 43472, 43482, 43486, 43488] }
  borrowed := { changes := [
    43471, 43472] }

/-- The script Kayah Li. -/
def kayahLi : Script where
  names := ["Kali", "Kayah_Li"]
  characters := { changes := [
    43264, 43310, 43311, 43312] }
  borrowed := { changes := [
    43310, 43311] }

/-- The script Kawi. -/
def kawi : Script where
  names := ["Kawi"]
  characters := { changes := [
    73472, 73489, 73490, 73531, 73534, 73563] }

/-- The script Khmer. -/
def khmer : Script where
  names := ["Khmr", "Khmer"]
  characters := { changes := [
    6016, 6110, 6112, 6122, 6128, 6138, 6624, 6656] }

/-- The script Tai Tham. -/
def taiTham : Script where
  names := ["Lana", "Tai_Tham"]
  characters := { changes := [
    6688, 6751, 6752, 6781, 6783, 6794, 6800, 6810, 6816, 6830] }

/-- The script Lao. -/
def lao : Script where
  names := ["Laoo", "Lao"]
  characters := { changes := [
    3713, 3715, 3716, 3717, 3718, 3723, 3724, 3748, 3749, 3750, 3751, 3774, 3776, 3781, 3782,
    3783, 3784, 3791, 3792, 3802, 3804, 3808] }

/-- The script Makasar. -/
def makasar : Script where
  names := ["Maka", "Makasar"]
  characters := { changes := [
    73440, 73465] }

/-- The script Myanmar. -/
def myanmar : Script where
  names := ["Mymr", "Myanmar"]
  characters := { changes := [
    4096, 4256, 43488, 43519, 43616, 43648, 71376, 71396] }
  borrowed := { changes := [
    43310, 43311] }

/-- The script Pahawh Hmong. -/
def pahawhHmong : Script where
  names := ["Hmng", "Pahawh_Hmong"]
  characters := { changes := [
    92928, 92998, 93008, 93018, 93019, 93026, 93027, 93048, 93053, 93072] }

/-- The script Nyiakeng Puachue Hmong. -/
def nyiakengPuachueHmong : Script where
  names := ["Hmnp", "Nyiakeng_Puachue_Hmong"]
  characters := { changes := [
    123136, 123181, 123184, 123198, 123200, 123210, 123214, 123216] }

/-- The script Pau Cin Hau. -/
def pauCinHau : Script where
  names := ["Pauc", "Pau_Cin_Hau"]
  characters := { changes := [
    72384, 72441] }

/-- The script Rejang. -/
def rejang : Script where
  names := ["Rjng", "Rejang"]
  characters := { changes := [
    43312, 43348, 43359, 43360] }

/-- The script Hanifi Rohingya. -/
def hanifiRohingya : Script where
  names := ["Rohg", "Hanifi_Rohingya"]
  characters := { changes := [
    68864, 68904, 68912, 68922] }
  borrowed := { changes := [
    1548, 1549, 1563, 1564, 1567, 1568, 1600, 1601, 1748, 1749] }

/-- The script Sundanese. -/
def sundanese : Script where
  names := ["Sund", "Sundanese"]
  characters := { changes := [
    7040, 7104, 7360, 7368] }

/-- The script Tagbanwa. -/
def tagbanwa : Script where
  names := ["Tagb", "Tagbanwa"]
  characters := { changes := [
    5984, 5997, 5998, 6001, 6002, 6004] }
  borrowed := { changes := [
    5941, 5943] }

/-- The script Tai Le. -/
def taiLe : Script where
  names := ["Tale", "Tai_Le"]
  characters := { changes := [
    6480, 6510, 6512, 6517] }
  borrowed := { changes := [
    768, 770, 775, 777, 780, 781, 4160, 4170] }

/-- The script New Tai Lue. -/
def newTaiLue : Script where
  names := ["Talu", "New_Tai_Lue"]
  characters := { changes := [
    6528, 6572, 6576, 6602, 6608, 6619, 6622, 6624] }

/-- The script Tai Viet. -/
def taiViet : Script where
  names := ["Tavt", "Tai_Viet"]
  characters := { changes := [
    43648, 43715, 43739, 43744] }

/-- The script Tagalog. -/
def tagalog : Script where
  names := ["Tglg", "Tagalog"]
  characters := { changes := [
    5888, 5910, 5919, 5920] }
  borrowed := { changes := [
    5941, 5943] }

/-- The script Thai. -/
def thai : Script where
  names := ["Thai"]
  characters := { changes := [
    3585, 3643, 3648, 3676] }
  borrowed := { changes := [
    700, 701, 727, 728, 771, 772, 817, 818] }

/-- All scripts of Indochina, Indonesia and the Philippines. -/
def southeastAsian : List Script := [
  balinese, batak, buginese, buhid, cham, hanunoo, javanese, kayahLi, kawi, khmer, taiTham, lao,
  makasar, myanmar, pahawhHmong, nyiakengPuachueHmong, pauCinHau, rejang, hanifiRohingya,
  sundanese, tagbanwa, taiLe, newTaiLue, taiViet, tagalog, thai]

end TreeQuery.Text.Script
