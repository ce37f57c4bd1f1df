import TreeQuery.Text.Blank
import TreeQuery.Text.Property.Case
import TreeQuery.Text.Segment.Word

/-!
# Parts of sentences

The classes of characters that decide where one sentence ends and the next one starts.
-/

namespace TreeQuery.Text.Segment.Sentence

/-- Line ends other than the carriage return and the line feed. -/
def separator : CodePoints := { changes := [
  133, 134, 8232, 8234] }

/-- Characters that belong to the one before them. -/
def extending : CodePoints :=
  CodePoints.unions [Property.graphemeExtend, Category.spacingMark, Grapheme.joiner]

/-- White space inside a line. -/
def space : CodePoints :=
  whiteSpace.diff (CodePoints.unions [separator, Grapheme.carriageReturn, Grapheme.lineFeed])

/-- Small Georgian letters, which start sentences as well. -/
def smallGeorgian : CodePoints := { changes := [
  4304, 4347, 4349, 4352] }

/-- Capital Georgian letters, which do not mark the start of a sentence. -/
def capitalGeorgian : CodePoints := { changes := [
  7312, 7355, 7357, 7360] }

/-- Small letters. -/
def lower : CodePoints :=
  Property.lowercase.diff (Property.graphemeExtend.union smallGeorgian)

/-- Capital letters. -/
def upper : CodePoints :=
  (Category.titlecaseLetter.union Property.uppercase).diff capitalGeorgian

/-- Digits, and the signs that belong to a number. -/
def numeric : CodePoints :=
  Word.numeric.union (CodePoints.range 0x66C 0x66C)

/-- Format characters, which do not count. -/
def format : CodePoints :=
  Category.format.diff
    (CodePoints.unions [CodePoints.range 0x200C 0x200D, Property.graphemeExtend, numeric])

/-- Letters without case. -/
def otherLetter : CodePoints :=
  (alphabetic.union (CodePoints.range 0x5F3 0x5F3)).diff
    (CodePoints.unions [lower, upper, extending, numeric])

/-- Full stops, which may end a sentence or an abbreviation. -/
def ambiguousEnd : CodePoints := { changes := [
  46, 47, 8228, 8229, 65106, 65107, 65294, 65295] }

/-- Punctuation inside a sentence. -/
def continuation : CodePoints := { changes := [
  44, 46, 58, 60, 894, 895, 1373, 1374, 1548, 1550, 2040, 2041, 6146, 6147, 6152, 6153, 8211,
  8213, 12289, 12290, 65040, 65042, 65043, 65045, 65073, 65075, 65104, 65106, 65108, 65110,
  65112, 65113, 65123, 65124, 65292, 65294, 65306, 65308, 65380, 65381] }

/-- Punctuation that ends a sentence. -/
def sentenceEnd : CodePoints :=
  Property.sentenceTerminal.diff ambiguousEnd

/-- Quotation marks that neither open nor close. -/
def otherQuote : CodePoints := { changes := [
  34, 35, 39, 40, 10075, 10081, 11776, 11778, 11782, 11785, 11787, 11788, 128630, 128633] }

/-- Brackets and quotation marks, which may follow the end of a sentence. -/
def closing : CodePoints :=
  CodePoints.diff
    (CodePoints.unions [Category.openPunctuation, Category.closePunctuation,
      Category.initialPunctuation, Category.finalPunctuation, otherQuote])
    (sentenceEnd.union ambiguousEnd)

/-- The classes by their short and long names. -/
def classes : List (List String × CodePoints) := [
  (["AT", "ATerm"], ambiguousEnd), (["CL", "Close"], closing),
  (["CR"], Grapheme.carriageReturn), (["EX", "Extend"], extending), (["FO", "Format"], format),
  (["LE", "OLetter"], otherLetter), (["LF"], Grapheme.lineFeed), (["LO", "Lower"], lower),
  (["NU", "Numeric"], numeric), (["SC", "SContinue"], continuation), (["SE", "Sep"], separator),
  (["SP", "Sp"], space), (["ST", "STerm"], sentenceEnd), (["UP", "Upper"], upper)]

end TreeQuery.Text.Segment.Sentence
