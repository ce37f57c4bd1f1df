import TreeQuery.Text.Property.Usage
import TreeQuery.Text.Script
import TreeQuery.Text.Segment.Grapheme

/-!
# Parts of words

The classes of characters that decide where one word ends and the next one starts.
-/

namespace TreeQuery.Text.Segment.Word

/-- Line ends other than the carriage return and the line feed. -/
def newline : CodePoints := { changes := [
  11, 13, 133, 134, 8232, 8234] }

/-- Characters that belong to the one before them. -/
def extending : CodePoints :=
  CodePoints.diff
    (CodePoints.unions [Property.graphemeExtend, Category.spacingMark, Property.emojiModifier])
    Grapheme.joiner

/-- Format characters, which do not count. -/
def format : CodePoints :=
  Category.format.diff
    (CodePoints.unions [CodePoints.range 0x200B 0x200D, Grapheme.prepended,
      Property.graphemeExtend])

/-- Katakana and the signs used with it. -/
def katakana : CodePoints :=
  Script.katakana.characters.union
    { changes := [12337, 12342, 12443, 12445, 12448, 12449, 12540, 12541, 65392, 65393] }

/-- The letters of the Hebrew script. -/
def hebrewLetter : CodePoints :=
  Script.hebrew.characters.inter Category.otherLetter

/-- The double quotation mark. -/
def doubleQuote : CodePoints := { changes := [
  34, 35] }

/-- The apostrophe. -/
def singleQuote : CodePoints := { changes := [
  39, 40] }

/-- Punctuation that may stand inside words and inside numbers. -/
def innerMark : CodePoints := { changes := [
  46, 47, 8216, 8218, 8228, 8229, 65106, 65107, 65287, 65288, 65294, 65295] }

/-- Punctuation that may stand inside words. -/
def innerWordMark : CodePoints := { changes := [
  58, 59, 183, 184, 903, 904, 1375, 1376, 1524, 1525, 8231, 8232, 65043, 65044, 65109, 65110,
  65306, 65307] }

/-- Punctuation that may stand inside numbers. -/
def innerNumberMark : CodePoints := { changes := [
  44, 45, 59, 60, 894, 895, 1417, 1418, 1548, 1550, 1644, 1645, 2040, 2041, 8260, 8261, 65104,
  65105, 65108, 65109, 65292, 65293, 65307, 65308] }

/-- Digits, and the signs that belong to a number. -/
def numeric : CodePoints :=
  CodePoints.unions [Category.decimalNumber, { changes := [1643, 1644, 6618, 6619] },
    Property.prependedConcatenationMark.diff (CodePoints.range 0x70F 0x70F)]

/-- Characters that join words and numbers. -/
def connector : CodePoints :=
  Category.connectorPunctuation.union (CodePoints.range 0x202F 0x202F)

/-- Spaces at which a line may break. -/
def space : CodePoints :=
  Category.spaceSeparator.diff { changes := [160, 161, 8199, 8200, 8239, 8240] }

/-- Modifiers and punctuation that count as letters. -/
def letterLike : CodePoints := { changes := [
  706, 710, 722, 728, 734, 736, 741, 748, 749, 750, 751, 768, 1370, 1373, 1374, 1375, 1418,
  1419, 1523, 1524, 1807, 1808, 42760, 42775, 42784, 42786, 42889, 42891, 43867, 43868] }

/-- Letters of scripts that are written without spaces between words. -/
def unspacedLetter : CodePoints := { changes := [
  3585, 3633, 3634, 3636, 3648, 3655, 3713, 3715, 3716, 3717, 3718, 3723, 3724, 3748, 3749,
  3750, 3751, 3761, 3762, 3764, 3773, 3774, 3776, 3781, 3782, 3783, 3804, 3808, 4096, 4139,
  4159, 4160, 4176, 4182, 4186, 4190, 4193, 4194, 4197, 4199, 4206, 4209, 4213, 4226, 4238,
  4239, 6016, 6068, 6103, 6104, 6108, 6109, 6480, 6510, 6512, 6517, 6528, 6572, 6576, 6602,
  6688, 6741, 6823, 6824, 43488, 43493, 43494, 43504, 43514, 43519, 43616, 43639, 43642, 43643,
  43646, 43696, 43697, 43698, 43701, 43703, 43705, 43710, 43712, 43713, 43714, 43715, 43739,
  43742, 71424, 71451, 71488, 71495] }

/-- Letters of scripts that are written with spaces between words. -/
def letter : CodePoints :=
  (alphabetic.union letterLike).diff
    (CodePoints.unions [Property.ideographic, katakana, unspacedLetter, Script.hiragana.characters,
      extending, hebrewLetter, numeric])

/-- The classes by their short and long names. -/
def classes : List (List String × CodePoints) := [
  (["CR"], Grapheme.carriageReturn), (["DQ", "Double_Quote"], doubleQuote),
  (["EX", "ExtendNumLet"], connector), (["Extend"], extending), (["FO", "Format"], format),
  (["HL", "Hebrew_Letter"], hebrewLetter), (["KA", "Katakana"], katakana),
  (["LE", "ALetter"], letter), (["LF"], Grapheme.lineFeed), (["MB", "MidNumLet"], innerMark),
  (["ML", "MidLetter"], innerWordMark), (["MN", "MidNum"], innerNumberMark),
  (["NL", "Newline"], newline), (["NU", "Numeric"], numeric),
  (["RI", "Regional_Indicator"], Property.regionalIndicator),
  (["SQ", "Single_Quote"], singleQuote), (["WSegSpace"], space), (["ZWJ"], Grapheme.joiner)]

end TreeQuery.Text.Segment.Word
