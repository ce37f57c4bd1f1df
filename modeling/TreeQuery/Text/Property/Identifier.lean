import TreeQuery.Text.Category.Letter
import TreeQuery.Text.Category.Mark
import TreeQuery.Text.Category.Number
import TreeQuery.Text.Category.Other
import TreeQuery.Text.Category.Punctuation
import TreeQuery.Text.Category.Symbol

/-!
# Identifiers and patterns

The characters of identifiers, and those that are set aside for the syntax of patterns.
-/

namespace TreeQuery.Text.Property

/-- Characters set aside for the syntax of patterns. -/
def patternSyntax : CodePoints := { changes := [
  33, 48, 58, 65, 91, 95, 96, 97, 123, 127, 161, 168, 169, 170, 171, 173, 174, 175, 176, 178,
  182, 183, 187, 188, 191, 192, 215, 216, 247, 248, 8208, 8232, 8240, 8255, 8257, 8276, 8277,
  8287, 8592, 9312, 9472, 10102, 10132, 11264, 11776, 11904, 12289, 12292, 12296, 12321, 12336,
  12337, 64830, 64832, 65093, 65095] }

/-- Characters set aside for white space in patterns. -/
def patternWhiteSpace : CodePoints := { changes := [
  9, 14, 32, 33, 133, 134, 8206, 8208, 8232, 8234] }

/-- Characters that may start an identifier although they are no letters. -/
def otherIdentifierStart : CodePoints := { changes := [
  6277, 6279, 8472, 8473, 8494, 8495, 12443, 12445] }

/-- Characters that may stand inside an identifier for no general reason. -/
def otherIdentifierContinue : CodePoints := { changes := [
  183, 184, 903, 904, 4969, 4978, 6618, 6619, 8204, 8206, 12539, 12540, 65381, 65382] }

/-- The letters. -/
def letter : CodePoints :=
  CodePoints.unions [Category.uppercaseLetter, Category.lowercaseLetter,
    Category.titlecaseLetter, Category.modifierLetter, Category.otherLetter]

/-- What no identifier holds. -/
def patternOnly : CodePoints :=
  patternSyntax.union patternWhiteSpace

/-- The characters that may start an identifier. -/
def identifierStart : CodePoints :=
  CodePoints.diff (CodePoints.unions [letter, Category.letterNumber, otherIdentifierStart])
    patternOnly

/-- The characters that may stand inside an identifier. -/
def identifierContinue : CodePoints :=
  CodePoints.diff
    (CodePoints.unions [identifierStart, Category.nonspacingMark, Category.spacingMark,
      Category.decimalNumber, Category.connectorPunctuation, otherIdentifierContinue])
    patternOnly

/-- Characters that start an identifier, but not in its compatibility form. -/
def openStart : CodePoints := { changes := [
  890, 891, 3635, 3636, 3763, 3764, 12443, 12445, 64606, 64612, 65018, 65020, 65136, 65137,
  65138, 65139, 65140, 65141, 65142, 65143, 65144, 65145, 65146, 65147, 65148, 65149, 65150,
  65151, 65438, 65440] }

/-- Characters of identifiers that are no such characters in compatibility form. -/
def openContinue : CodePoints := { changes := [
  890, 891, 12443, 12445, 64606, 64612, 65018, 65020, 65136, 65137, 65138, 65139, 65140, 65141,
  65142, 65143, 65144, 65145, 65146, 65147, 65148, 65149, 65150, 65151] }

/-- The characters that may start an identifier in every normal form. -/
def closedIdentifierStart : CodePoints :=
  identifierStart.diff openStart

/-- The characters that may stand inside an identifier in every normal form. -/
def closedIdentifierContinue : CodePoints :=
  identifierContinue.diff openContinue

/-- Mathematical symbols that may start an identifier where the profile for mathematics holds. -/
def mathStart : CodePoints := { changes := [
  8706, 8707, 8711, 8712, 8734, 8735, 120513, 120514, 120539, 120540, 120571, 120572, 120597,
  120598, 120629, 120630, 120655, 120656, 120687, 120688, 120713, 120714, 120745, 120746,
  120771, 120772] }

/-- Mathematical symbols that may stand inside an identifier where that profile holds. -/
def mathContinue : CodePoints :=
  mathStart.union { changes := [178, 180, 185, 186, 8304, 8305, 8308, 8319, 8320, 8335] }

end TreeQuery.Text.Property
