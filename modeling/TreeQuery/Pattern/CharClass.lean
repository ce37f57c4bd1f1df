import TreeQuery.Pattern.Property

/-!
# Classes of characters

The classes of digits, blanks and word characters come in a Unicode and an ASCII form.  The classes
that have a name between `[:` and `:]` are those of ASCII.
-/

namespace TreeQuery.Pattern.CharClass

open Text (CodePoints)
open Text.CodePoints (range single unions)

/-- Decimal digits of any script, or of ASCII. -/
def digit (unicode : Bool) : CodePoints :=
  if unicode then Text.Category.decimalNumber else range 0x30 0x39

/-- White space of Unicode, or of ASCII. -/
def blank (unicode : Bool) : CodePoints :=
  if unicode then Text.whiteSpace else (range 0x09 0x0d).union (single ' ')

/-- The small and capital letters of ASCII. -/
def asciiLetter : CodePoints := (range 0x41 0x5a).union (range 0x61 0x7a)

/-- The letters and digits of ASCII. -/
def asciiAlphanumeric : CodePoints := asciiLetter.union (range 0x30 0x39)

/-- The word characters of Unicode: letters, marks, decimal digits, connectors such as the
underscore, and the two joiners. -/
def unicodeWord : CodePoints :=
  unions [Text.alphabetic, Property.mark, Text.Category.decimalNumber,
    Text.Category.connectorPunctuation, Text.Property.joinControl]

/-- The word characters of ASCII. -/
def asciiWord : CodePoints := asciiAlphanumeric.union (single '_')

/-- The characters of words. -/
def word (unicode : Bool) : CodePoints := if unicode then unicodeWord else asciiWord

/-- The ASCII classes by their names. -/
def named? (name : Text) : Option CodePoints :=
  List.lookup name
    [("alnum".toList, asciiAlphanumeric), ("alpha".toList, asciiLetter),
      ("ascii".toList, CodePoints.ascii), ("blank".toList, (single '\t').union (single ' ')),
      ("cntrl".toList, (range 0x00 0x1f).union (single '\x7f')),
      ("digit".toList, range 0x30 0x39), ("graph".toList, range 0x21 0x7e),
      ("lower".toList, range 0x61 0x7a), ("print".toList, range 0x20 0x7e),
      ("punct".toList, (range 0x21 0x7e).diff asciiAlphanumeric), ("space".toList, blank false),
      ("upper".toList, range 0x41 0x5a), ("word".toList, asciiWord),
      ("xdigit".toList, unions [range 0x30 0x39, range 0x41 0x46, range 0x61 0x66])]

end TreeQuery.Pattern.CharClass
