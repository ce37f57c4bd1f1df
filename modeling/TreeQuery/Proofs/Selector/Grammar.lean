import TreeQuery.Proofs.Selector.Balance
import TreeQuery.Selector.Parse

/-!
# The grammar of selectors

The rules by which selectors are written, level by level: arguments, simple selectors, compounds,
alternatives and whole selectors.  A rule says what a text looks like and nothing about what it
compiles to.  Rules that allow a selector inside another one have the texts of such selectors as a
parameter; `Accepted` ties the knot.
-/

namespace TreeQuery.Selector.Grammar

variable [PatternEngine]

/-! ### Attribute tests -/

/-- A text and what is left of it when one pair of equal outer quotes is taken away. -/
inductive Unquoted : Text → Text → Prop where
  | quoted {q : Char} {t : Text} : isQuote q → Unquoted (q :: t ++ [q]) t
  | bare {t : Text} : (∀ q s, isQuote q → t ≠ q :: s ++ [q]) → Unquoted t t

/-- What stands on the right of an equals sign, and the value that is meant. -/
structure Value (written value : Text) : Prop where
  unquoted : ∃ t, Unquoted (Text.trim written) t ∧ value = Text.trim t
  nonempty : value ≠ []

/-- The characters that make an operator together with an equals sign. -/
def marks : Text := "!^$*~".toList

/-- What may stand between square brackets. -/
inductive Attribute : Text → Prop where
  | name {inner : Text} :
    '=' ∉ inner → Text.trim inner ≠ [] → Text.trim inner ≠ ['^'] → Attribute inner
  | equals {key written value : Text} :
    '=' ∉ key → (∀ c ∈ key.getLast?, c ∉ marks) → Text.trim key ≠ [] → Value written value →
    Attribute (key ++ '=' :: written)
  | operator {key written value : Text} {mark : Char} :
    '=' ∉ key → mark ∈ marks → Text.trim key ≠ [] → Value written value →
    (mark = '~' → (PatternEngine.compile value).isOk) →
    Attribute (key ++ mark :: '=' :: written)

/-! ### Pseudo-classes -/

/-- A run of ASCII digits that denotes at most `limit`. -/
structure Digits (limit : Nat) (t : Text) : Prop where
  nonempty : t ≠ []
  digit : ∀ d ∈ t, d.isDigit
  bounded : Nat.ofDigitChars 10 t 0 ≤ limit

/-- A 32-bit integer in decimal form, with or without a sign. -/
inductive Integer : Text → Prop where
  | unsigned {t : Text} : Digits 2147483647 t → Integer t
  | plus {t : Text} : Digits 2147483647 t → Integer ('+' :: t)
  | minus {t : Text} : Digits 2147483648 t → Integer ('-' :: t)

/-- What pseudo-classes take as their argument. -/
inductive Kind where
  /-- Nothing. -/
  | plain
  /-- An integer. -/
  | index
  /-- A formula for positions. -/
  | nth
  /-- A text to look for. -/
  | search
  /-- A pattern to look for. -/
  | pattern
  | selector
deriving DecidableEq

/-- The names of pseudo-classes, in small letters. -/
def Kind.names : Kind → List Text
  | plain =>
    ["first-child".toList, "last-child".toList, "first-of-type".toList, "last-of-type".toList,
      "only-child".toList, "only-of-type".toList, "empty".toList, "root".toList]
  | index => ["lt".toList, "gt".toList, "eq".toList]
  | nth =>
    ["nth-child".toList, "nth-last-child".toList, "nth-of-type".toList, "nth-last-of-type".toList]
  | search => ["contains".toList, "containsown".toList, "containsdata".toList]
  | pattern => ["matches".toList, "matchesown".toList]
  | selector => ["has".toList, "not".toList]

/-- What may stand between round brackets after the name of a pseudo-class in small letters, except
where that is a selector. -/
inductive Argument : Text → Text → Prop where
  | index {name argument : Text} :
    name ∈ Kind.index.names → Integer (Text.trim argument) → Argument name argument
  | nth {name argument : Text} :
    name ∈ Kind.nth.names → (Nth.read? argument).isSome → Argument name argument
  | search {name argument : Text} :
    name ∈ Kind.search.names → Text.unescape argument ≠ [] → Argument name argument
  | pattern {name argument : Text} :
    name ∈ Kind.pattern.names → argument ≠ [] → (PatternEngine.compile argument).isOk →
    Argument name argument

/-! ### Compounds -/

/-- A run of characters of one kind, as long as can be before the text that follows. -/
structure Run (p : Char → Bool) (run rest : Text) : Prop where
  all : ∀ c ∈ run, p c
  stop : ∀ c ∈ rest.head?, p c = false

/-- A simple selector, and the text that follows it in a compound. -/
inductive Simple (accepted : Text → Prop) : Text → Text → Prop where
  | tag {run rest : Text} : run ≠ [] → Run isTagChar run rest → Simple accepted run rest
  | id {name rest : Text} :
    name ≠ [] → Run isNameChar name rest → Simple accepted ('#' :: name) rest
  | hasClass {name rest : Text} :
    name ≠ [] → Run isNameChar name rest → Simple accepted ('.' :: name) rest
  | universal {run rest : Text} : Run isTagChar run rest → Simple accepted ('*' :: run) rest
  | attributeTest {inner rest : Text} :
    Balanced .square inner → Attribute inner → Simple accepted ('[' :: inner ++ [']']) rest
  | plain {name rest : Text} :
    Run isNameChar name rest → rest.head? ≠ some '(' → Text.lower name ∈ Kind.plain.names →
    Simple accepted (':' :: name) rest
  | call {name argument rest : Text} :
    (∀ c ∈ name, isNameChar c) → Balanced .round argument → Argument (Text.lower name) argument →
    Simple accepted (':' :: name ++ '(' :: argument ++ [')']) rest
  | nested {name argument rest : Text} :
    (∀ c ∈ name, isNameChar c) → Balanced .round argument → Text.lower name ∈ Kind.selector.names →
    accepted argument → Simple accepted (':' :: name ++ '(' :: argument ++ [')']) rest

/-- One or more simple selectors with nothing between them. -/
inductive Compound (accepted : Text → Prop) : Text → Prop where
  | last {t : Text} : Simple accepted t [] → Compound accepted t
  | cons {t rest : Text} :
    Simple accepted t rest → Compound accepted rest → Compound accepted (t ++ rest)

/-! ### Selectors -/

/-- Compounds with combinators between them. -/
inductive Chained (compound : Text → Prop) : List Token → Prop where
  | last {text : Text} {offset : Nat} : compound text → Chained compound [.compound text offset]
  | cons {text : Text} {offset o : Nat} {k : Combinator} {tokens : List Token} :
    compound text → Chained compound tokens →
    Chained compound (.compound text offset :: .separator (.combinator k) o :: tokens)

/-- Compounds with combinators between them, and possibly one in front. -/
inductive Alternative (compound : Text → Prop) : List Token → Prop where
  | absolute {tokens : List Token} : Chained compound tokens → Alternative compound tokens
  | relative {offset : Nat} {k : Combinator} {tokens : List Token} :
    Chained compound tokens → Alternative compound (.separator (.combinator k) offset :: tokens)

/-- Whether a token is a comma. -/
def isComma : Token → Bool
  | .separator .comma _ => true
  | _ => false

/-- A text that is made of tokens which are alternatives with commas between them. -/
inductive Accepted : Text → Prop where
  | intro {text : Text} {tokens : List Token} :
    (Cursor.start 0 text).tokens.1 = .ok tokens →
    (∀ alternative ∈ tokens.splitOnP isComma, Alternative (Compound Accepted) alternative) →
    Accepted text

end TreeQuery.Selector.Grammar
