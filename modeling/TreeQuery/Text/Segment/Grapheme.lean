import TreeQuery.Text.Property.Emoji
import TreeQuery.Text.Property.Shape

/-!
# Parts of user-perceived characters

The classes of characters that decide where one user-perceived character ends and the next one
starts.
-/

namespace TreeQuery.Text.Segment.Grapheme

/-- The carriage return. -/
def carriageReturn : CodePoints := { changes := [
  13, 14] }

/-- The line feed. -/
def lineFeed : CodePoints := { changes := [
  10, 11] }

/-- The zero-width joiner. -/
def joiner : CodePoints := { changes := [
  8205, 8206] }

/-- Signs that belong to the character after them. -/
def prepended : CodePoints := { changes := [
  1536, 1542, 1757, 1758, 1807, 1808, 2192, 2194, 2274, 2275, 3406, 3407, 69821, 69822, 69837,
  69838, 70082, 70084, 70609, 70610, 71999, 72000, 72001, 72002, 72250, 72251, 72324, 72330,
  73030, 73031, 73474, 73475] }

/-- Characters that belong to the one before them. -/
def extending : CodePoints :=
  Property.graphemeExtend.union Property.emojiModifier

/-- Controls, which stand alone. -/
def control : CodePoints :=
  CodePoints.diff
    (CodePoints.unions [Category.lineSeparator, Category.paragraphSeparator, Category.control,
      Category.format,
      Property.otherDefaultIgnorable.diff (Category.otherLetter.union Category.nonspacingMark)])
    (CodePoints.unions [carriageReturn, lineFeed, joiner, prepended, extending])

/-- Marks with a width that do not belong to the character before them. -/
def detachedMark : CodePoints := { changes := [
  4139, 4141, 4152, 4153, 4194, 4197, 4199, 4206, 4227, 4228, 4231, 4237, 4239, 4240, 4250,
  4253, 6753, 6754, 6755, 6757, 43643, 43644, 43645, 43646, 71456, 71458] }

/-- Marks with a width that belong to the character before them. -/
def spacingMark : CodePoints :=
  (Category.spacingMark.union { changes := [3635, 3636, 3763, 3764] }).diff
    (CodePoints.unions [detachedMark, extending, prepended])

/-- Hangul letters at the start of a syllable. -/
def leadingConsonant : CodePoints := { changes := [
  4352, 4448, 43360, 43389] }

/-- Hangul vowels, and vowel signs that combine like them. -/
def vowel : CodePoints := { changes := [
  4448, 4520, 55216, 55239, 93539, 93540, 93543, 93547] }

/-- Hangul letters at the end of a syllable. -/
def trailingConsonant : CodePoints := { changes := [
  4520, 4608, 55243, 55292] }

/-- Hangul syllables without a final consonant: every twenty-eighth one. -/
def openSyllable : CodePoints :=
  CodePoints.unions ((List.range 399).map fun i =>
    CodePoints.range (0xAC00 + 28 * i) (0xAC00 + 28 * i))

/-- Hangul syllables with a final consonant. -/
def closedSyllable : CodePoints :=
  (CodePoints.range 0xAC00 0xD7A3).diff openSyllable

/-- The classes by their short and long names. -/
def classes : List (List String × CodePoints) := [
  (["CN", "Control"], control), (["CR"], carriageReturn), (["EX", "Extend"], extending),
  (["L"], leadingConsonant), (["LF"], lineFeed), (["LV"], openSyllable),
  (["LVT"], closedSyllable), (["PP", "Prepend"], prepended),
  (["RI", "Regional_Indicator"], Property.regionalIndicator),
  (["SM", "SpacingMark"], spacingMark), (["T"], trailingConsonant), (["V"], vowel),
  (["ZWJ"], joiner)]

end TreeQuery.Text.Segment.Grapheme
