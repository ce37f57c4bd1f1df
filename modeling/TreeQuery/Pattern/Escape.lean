import TreeQuery.Text.Hex
import TreeQuery.Pattern.Expr
import TreeQuery.Pattern.Flags

/-!
# Escapes

What a backslash and the characters after it stand for: a character, a set of characters, or an
assertion.
-/

namespace TreeQuery.Pattern

open Text (CodePoints)

/-- What one element of a pattern or of a class stands for. -/
inductive Atom where
  | literal (c : Char)
  | set (set : CodePoints)
  | assertion (condition : Assertion)

namespace Escape

/-! ### Code points -/

/-- The character whose code point the hexadecimal digits give. -/
def hexChar? (digits : Text) : Option Char := do
  if digits.isEmpty then none
  let values ← digits.mapM Text.hexDigit?
  let n := values.foldl (fun n digit => 16 * n + digit) 0
  if n.isValidChar then some (Char.ofNat n) else none

/-- A code point in braces or in exactly `width` digits, after its letter. -/
def hex (flags : Flags) (width : Nat) (t : Text) : Option (Char × Text) :=
  match flags.skip t with
  | '\x7b' :: rest => do
    let (digits, after) ← flags.braced rest
    return (← hexChar? digits, after)
  | t => do
    let (digits, after) ← flags.take width t
    return (← hexChar? digits, after)

/-- A code point of two digits stands for a byte where characters are not those of Unicode, and must
be ASCII there. -/
def hexByte (flags : Flags) (t : Text) : Option (Char × Text) :=
  if (flags.skip t).head? == some '\x7b' then hex flags 2 t
  else (hex flags 2 t).filter fun (c, _) => flags.unicode || c.toNat < 128

/-! ### Properties -/

/-- The text cut at the first `separator`. -/
def cut? (separator : Text) : Text → Option (Text × Text)
  | [] => none
  | c :: rest =>
    if separator.isPrefixOf (c :: rest) then some ([], (c :: rest).drop separator.length)
    else (cut? separator rest).map fun (before, after) => (c :: before, after)

/-- The set of a property in braces: a name, or a property with its value. -/
def namedSet? (name : Text) : Option CodePoints :=
  match cut? ['!', '='] name <|> cut? [':'] name <|> cut? ['='] name with
  | some (property, value) => Property.findValue? property value
  | none => Property.find? name

/-- A property of characters, in braces or as one letter, after the letter that announces it. -/
def propertySet (flags : Flags) (t : Text) : Option (CodePoints × Text) :=
  match flags.skip t with
  | [] | '\\' :: _ => none
  | '\x7b' :: rest => do
    let (name, after) ← flags.braced rest
    return (← namedSet? name, after)
  | c :: rest => do return (← Property.find? [c], rest)

/-- A property of characters or its negation.  There are no properties without Unicode. -/
def property (flags : Flags) (negated : Bool) (t : Text) : Option (Atom × Text) := do
  let (set, after) ← propertySet flags t
  if flags.unicode then return (.set (← flags.negateIf negated (flags.fold set)), after) else none

/-! ### Word edges -/

/-- Whether a character may stand in the name of a word edge. -/
def isEdgeChar (c : Char) : Bool := c.isAlpha || c == '-'

/-- The word edge that a name in braces stands for. -/
def edge? (name : Text) : Option Edge :=
  List.lookup name
    [("start".toList, Edge.wordStart), ("end".toList, Edge.wordEnd),
      ("start-half".toList, Edge.noWordBefore), ("end-half".toList, Edge.noWordAfter)]

/-- A word edge after its letter: a boundary, or the edge named in braces.  Braces that hold no name
are left to be read as a repetition. -/
def boundary (flags : Flags) (t : Text) : Option (Atom × Text) :=
  match t with
  | '\x7b' :: rest =>
    match flags.takeWhile isEdgeChar rest with
    | (_, []) => none
    | ([], _) => some (.assertion (.edge .boundary flags.unicode), t)
    | (name, c :: after) =>
      if c == '\x7d' then
        (edge? name).map fun kind => (.assertion (.edge kind flags.unicode), after)
      else none
  | _ => some (.assertion (.edge .boundary flags.unicode), t)

/-! ### All escapes -/

/-- An escape, after its backslash. -/
def read (flags : Flags) : Text → Option (Atom × Text)
  | [] => none
  | c :: rest =>
    let literal (c : Char) : Option (Atom × Text) := some (.literal c, rest)
    let set (negated : Bool) (set : CodePoints) : Option (Atom × Text) :=
      (flags.negateIf negated set).map fun set => (.set set, rest)
    let assertion (condition : Assertion) : Option (Atom × Text) :=
      some (.assertion condition, rest)
    let character (result : Option (Char × Text)) : Option (Atom × Text) :=
      result.map fun (c, after) => (.literal c, after)
    match c with
    | 'x' => character (hexByte flags rest)
    | 'u' => character (hex flags 4 rest)
    | 'U' => character (hex flags 8 rest)
    | 'p' => property flags false rest
    | 'P' => property flags true rest
    | 'd' => set false (CharClass.digit flags.unicode)
    | 'D' => set true (CharClass.digit flags.unicode)
    | 's' => set false (CharClass.blank flags.unicode)
    | 'S' => set true (CharClass.blank flags.unicode)
    | 'w' => set false (CharClass.word flags.unicode)
    | 'W' => set true (CharClass.word flags.unicode)
    | 'a' => literal '\x07'
    | 'f' => literal '\x0c'
    | 't' => literal '\t'
    | 'n' => literal '\n'
    | 'r' => literal '\r'
    | 'v' => literal '\x0b'
    | 'A' => assertion .textStart
    | 'z' => assertion .textEnd
    | 'b' => boundary flags rest
    | 'B' => assertion (.edge .noBoundary flags.unicode)
    | '<' => assertion (.edge .wordStart flags.unicode)
    | '>' => assertion (.edge .wordEnd flags.unicode)
    | c => if c.isAlphanum || c.toNat > 127 then none else literal c

end Escape
end TreeQuery.Pattern
