import TreeQuery.Text.Age
import TreeQuery.Text.Basic
import TreeQuery.Text.Property.Identifier
import TreeQuery.Text.Segment.Sentence

/-!
# Character properties by name

Sets of characters that have a name in Unicode: properties that a character has or has not, general
categories, scripts, ages, and the classes that divide a text into characters, words and sentences.
Case, spaces, hyphens and underscores in a name do not count.
-/

namespace TreeQuery.Pattern.Property

open Text (CodePoints Script)
open Text.Category Text.Property

/-- The parts of a name that count: its ASCII characters without spaces, hyphens and underscores, in
small letters.  A name may start with `is`; this is told apart from the name `isc`. -/
def normalize (name : Text) : Text :=
  let significant (t : Text) : Text :=
    Text.lower (t.filter fun c => c.toNat < 128 && !(c == ' ' || c == '-' || c == '_'))
  match name with
  | i :: s :: rest =>
    if Text.sameIgnoringCase [i, s] ['i', 's'] then
      if significant rest == ['c'] then ['i', 's', 'c'] else significant rest
    else significant name
  | _ => significant name

/-- A list of sets with their names. -/
abbrev Directory := List (List String × CodePoints)

/-- The set of a given name. -/
def Directory.find? (directory : Directory) (name : Text) : Option CodePoints :=
  (List.find? (fun entry => entry.1.any fun known => normalize known.toList == normalize name)
    directory).map (·.2)

/-- The properties that a character has or has not. -/
def binaries : Directory := [
  (["AHex", "ASCII_Hex_Digit"], asciiHexDigit), (["Alpha", "Alphabetic"], Text.alphabetic),
  (["Bidi_C", "Bidi_Control"], bidiControl), (["Bidi_M", "Bidi_Mirrored"], bidiMirrored),
  (["CI", "Case_Ignorable"], caseIgnorable), (["Cased"], cased),
  (["CWCF", "Changes_When_Casefolded"], changesWhenCasefolded),
  (["CWCM", "Changes_When_Casemapped"], changesWhenCasemapped),
  (["CWL", "Changes_When_Lowercased"], changesWhenLowercased),
  (["CWT", "Changes_When_Titlecased"], changesWhenTitlecased),
  (["CWU", "Changes_When_Uppercased"], changesWhenUppercased), (["Dash"], dash),
  (["DI", "Default_Ignorable_Code_Point"], defaultIgnorable), (["Dep", "Deprecated"], deprecated),
  (["Dia", "Diacritic"], diacritic), (["Emoji"], emoji),
  (["EComp", "Emoji_Component"], emojiComponent), (["EMod", "Emoji_Modifier"], emojiModifier),
  (["EBase", "Emoji_Modifier_Base"], emojiModifierBase),
  (["EPres", "Emoji_Presentation"], emojiPresentation),
  (["ExtPict", "Extended_Pictographic"], extendedPictographic), (["Ext", "Extender"], extender),
  (["Gr_Base", "Grapheme_Base"], graphemeBase), (["Gr_Ext", "Grapheme_Extend"], graphemeExtend),
  (["Gr_Link", "Grapheme_Link"], graphemeLink), (["Hex", "Hex_Digit"], hexDigit),
  (["Hyphen"], hyphen), (["IDSB", "IDS_Binary_Operator"], binaryOperator),
  (["IDST", "IDS_Trinary_Operator"], ternaryOperator),
  (["IDSU", "IDS_Unary_Operator"], unaryOperator),
  (["ID_Compat_Math_Continue"], mathContinue), (["ID_Compat_Math_Start"], mathStart),
  (["IDC", "ID_Continue"], identifierContinue), (["IDS", "ID_Start"], identifierStart),
  (["Ideo", "Ideographic"], ideographic), (["Join_C", "Join_Control"], joinControl),
  (["LOE", "Logical_Order_Exception"], logicalOrderException), (["Lower", "Lowercase"], lowercase),
  (["Math"], math), (["MCM", "Modifier_Combining_Mark"], modifierCombiningMark),
  (["NChar", "Noncharacter_Code_Point"], noncharacter),
  (["OAlpha", "Other_Alphabetic"], otherAlphabetic),
  (["ODI", "Other_Default_Ignorable_Code_Point"], otherDefaultIgnorable),
  (["OGr_Ext", "Other_Grapheme_Extend"], otherGraphemeExtend),
  (["OIDC", "Other_ID_Continue"], otherIdentifierContinue),
  (["OIDS", "Other_ID_Start"], otherIdentifierStart),
  (["OLower", "Other_Lowercase"], otherLowercase), (["OMath", "Other_Math"], otherMath),
  (["OUpper", "Other_Uppercase"], otherUppercase), (["Pat_Syn", "Pattern_Syntax"], patternSyntax),
  (["Pat_WS", "Pattern_White_Space"], patternWhiteSpace),
  (["PCM", "Prepended_Concatenation_Mark"], prependedConcatenationMark),
  (["QMark", "Quotation_Mark"], quotationMark), (["Radical"], radical),
  (["RI", "Regional_Indicator"], regionalIndicator),
  (["STerm", "Sentence_Terminal"], sentenceTerminal),
  (["SD", "Soft_Dotted"], softDotted), (["Term", "Terminal_Punctuation"], terminalPunctuation),
  (["UIdeo", "Unified_Ideograph"], unifiedIdeograph), (["Upper", "Uppercase"], uppercase),
  (["VS", "Variation_Selector"], variationSelector),
  (["WSpace", "White_Space", "space"], Text.whiteSpace),
  (["XIDC", "XID_Continue"], closedIdentifierContinue),
  (["XIDS", "XID_Start"], closedIdentifierStart)]

/-- The marks. -/
def mark : CodePoints := CodePoints.unions [nonspacingMark, spacingMark, enclosingMark]

/-- The numbers. -/
def number : CodePoints := CodePoints.unions [decimalNumber, letterNumber, otherNumber]

/-- The punctuation. -/
def punctuation : CodePoints :=
  CodePoints.unions [connectorPunctuation, dashPunctuation, openPunctuation, closePunctuation,
    initialPunctuation, finalPunctuation, otherPunctuation]

/-- The symbols. -/
def symbol : CodePoints :=
  CodePoints.unions [mathSymbol, currencySymbol, modifierSymbol, otherSymbol]

/-- The separators. -/
def separator : CodePoints :=
  CodePoints.unions [spaceSeparator, lineSeparator, paragraphSeparator]

/-- The characters with a shape or a place of their own. -/
def visible : CodePoints :=
  CodePoints.unions [letter, mark, number, punctuation, symbol, separator]

/-- The characters that have been assigned. -/
def assigned : CodePoints := CodePoints.unions [visible, control, format, privateUse]

/-- The general categories, and three sets that are named along with them. -/
def categories : Directory := [
  (["L", "Letter"], letter),
  (["LC", "Cased_Letter"], CodePoints.unions [uppercaseLetter, lowercaseLetter, titlecaseLetter]),
  (["Lu", "Uppercase_Letter"], uppercaseLetter), (["Ll", "Lowercase_Letter"], lowercaseLetter),
  (["Lt", "Titlecase_Letter"], titlecaseLetter), (["Lm", "Modifier_Letter"], modifierLetter),
  (["Lo", "Other_Letter"], otherLetter), (["M", "Mark", "Combining_Mark"], mark),
  (["Mn", "Nonspacing_Mark"], nonspacingMark), (["Mc", "Spacing_Mark"], spacingMark),
  (["Me", "Enclosing_Mark"], enclosingMark), (["N", "Number"], number),
  (["Nd", "Decimal_Number", "digit"], decimalNumber), (["Nl", "Letter_Number"], letterNumber),
  (["No", "Other_Number"], otherNumber), (["P", "Punctuation", "punct"], punctuation),
  (["Pc", "Connector_Punctuation"], connectorPunctuation),
  (["Pd", "Dash_Punctuation"], dashPunctuation), (["Ps", "Open_Punctuation"], openPunctuation),
  (["Pe", "Close_Punctuation"], closePunctuation),
  (["Pi", "Initial_Punctuation"], initialPunctuation),
  (["Pf", "Final_Punctuation"], finalPunctuation), (["Po", "Other_Punctuation"], otherPunctuation),
  (["S", "Symbol"], symbol), (["Sm", "Math_Symbol"], mathSymbol),
  (["Sc", "Currency_Symbol"], currencySymbol), (["Sk", "Modifier_Symbol"], modifierSymbol),
  (["So", "Other_Symbol"], otherSymbol), (["Z", "Separator"], separator),
  (["Zs", "Space_Separator"], spaceSeparator), (["Zl", "Line_Separator"], lineSeparator),
  (["Zp", "Paragraph_Separator"], paragraphSeparator), (["C", "Other"], visible.complement),
  (["Cc", "Control", "cntrl"], control), (["Cf", "Format"], format),
  (["Co", "Private_Use"], privateUse), (["Cn", "Unassigned"], assigned.complement),
  (["Assigned"], assigned), (["Any"], CodePoints.all), (["ASCII"], CodePoints.ascii)]

/-- The scripts, each with the characters of its own. -/
def scripts : Directory := Script.scripts.map fun script => (script.names, script.characters)

/-- The scripts, each with the characters that are used in it. -/
def extendedScripts : Directory :=
  Script.scripts.map fun script => (script.names, script.extended)

/-- The versions of Unicode, each with the characters that it knows: its own and those of the
versions before. -/
def agesAfter (known : CodePoints) : Directory → Directory
  | [] => []
  | (names, added) :: later => (names, known.union added) :: agesAfter (known.union added) later

/-- The set that a name stands for on its own. -/
def find? (name : Text) : Option CodePoints :=
  binaries.find? name <|> categories.find? name <|> scripts.find? name

/-- The properties that have more than two values. -/
def enumerations : List (List String × Directory) := [
  (["gc", "General_Category"], categories), (["sc", "Script"], scripts),
  (["scx", "Script_Extensions"], extendedScripts),
  (["age", "Age"], agesAfter CodePoints.empty Text.Age.versions),
  (["GCB", "Grapheme_Cluster_Break"], Text.Segment.Grapheme.classes),
  (["WB", "Word_Break"], Text.Segment.Word.classes),
  (["SB", "Sentence_Break"], Text.Segment.Sentence.classes)]

/-- The set of the characters whose property has the given value. -/
def findValue? (property value : Text) : Option CodePoints := do
  let entry ← enumerations.find? fun entry =>
    entry.1.any fun known => normalize known.toList == normalize property
  entry.2.find? value

end TreeQuery.Pattern.Property
