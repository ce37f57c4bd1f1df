import TreeQuery.Text.Script.Basic

/-!
# Central Asian scripts

The scripts of Tibet, Mongolia and the silk road.
-/

namespace TreeQuery.Text.Script

/-- The script Marchen. -/
def marchen : Script where
  names := ["Marc", "Marchen"]
  characters := { changes := [
    72816, 72848, 72850, 72872, 72873, 72887] }

/-- The script Mongolian. -/
def mongolian : Script where
  names := ["Mong", "Mongolian"]
  characters := { changes := [
    6144, 6146, 6148, 6149, 6150, 6170, 6176, 6265, 6272, 6315, 71264, 71277] }
  borrowed := { changes := [
    6146, 6148, 6149, 6150, 8239, 8240, 12289, 12291, 12296, 12300] }

/-- The script Old Uyghur. -/
def oldUyghur : Script where
  names := ["Ougr", "Old_Uyghur"]
  characters := { changes := [
    69488, 69514] }
  borrowed := { changes := [
    1600, 1601, 68338, 68339] }

/-- The script Old Turkic. -/
def oldTurkic : Script where
  names := ["Orkh", "Old_Turkic"]
  characters := { changes := [
    68608, 68681] }
  borrowed := { changes := [
    8282, 8283, 11824, 11825] }

/-- The script Phags Pa. -/
def phagsPa : Script where
  names := ["Phag", "Phags_Pa"]
  characters := { changes := [
    43072, 43128] }
  borrowed := { changes := [
    6146, 6148, 6149, 6150, 8239, 8240, 12290, 12291] }

/-- The script Soyombo. -/
def soyombo : Script where
  names := ["Soyo", "Soyombo"]
  characters := { changes := [
    72272, 72355] }

/-- The script Tibetan. -/
def tibetan : Script where
  names := ["Tibt", "Tibetan"]
  characters := { changes := [
    3840, 3912, 3913, 3949, 3953, 3992, 3993, 4029, 4030, 4045, 4046, 4053, 4057, 4059] }
  borrowed := { changes := [
    12296, 12300] }

/-- The script Zanabazar Square. -/
def zanabazarSquare : Script where
  names := ["Zanb", "Zanabazar_Square"]
  characters := { changes := [
    72192, 72264] }

/-- The script Sogdian. -/
def sogdian : Script where
  names := ["Sogd", "Sogdian"]
  characters := { changes := [
    69424, 69466] }
  borrowed := tatweel

/-- The script Old Sogdian. -/
def oldSogdian : Script where
  names := ["Sogo", "Old_Sogdian"]
  characters := { changes := [
    69376, 69416] }

/-- All scripts of Tibet, Mongolia and the silk road. -/
def centralAsian : List Script := [
  marchen, mongolian, oldUyghur, oldTurkic, phagsPa, soyombo, tibetan, zanabazarSquare, sogdian,
  oldSogdian]

end TreeQuery.Text.Script
