import TreeQuery.Text.Basic
import TreeQuery.Selector.Separator

/-!
# Why a selector is refused

An error is a cause and a place.  The place is a byte offset in the outermost selector, also when
the cause lies in a nested one.  Causes fall into four kinds, and each has its message.
-/

namespace TreeQuery.Selector

/-- What an argument was given to. -/
inductive Subject where
  | attribute
  | pseudoClass (name : Text)
deriving DecidableEq, Repr

/-- Why an argument is refused. -/
inductive Reason where
  | missing
  | notTaken
  | notAnInteger
  | notAPosition
  | emptySearchText
  | emptyPattern
  /-- The text is no pattern; the message is that of the engine which reads patterns. -/
  | invalidPattern (message : Text)
  | emptyNameStart
  | missingName
  | missingValue
deriving DecidableEq, Repr

/-- Why a selector is refused. -/
inductive Cause where
  /-- A quote is opened and not closed; `fragment` starts where the bracket around it opens. -/
  | unterminatedQuote (quote : Char) (fragment : Text)
  /-- A bracket is opened and not closed; `fragment` starts with it. -/
  | unbalanced (opening : Char) (fragment : Text)
  /-- Nothing that may stand here starts with this text. -/
  | unexpected (fragment : Text)
  /-- An alternative, or the whole selector, is empty. -/
  | emptyGroup
  /-- Nothing follows a separator. -/
  | dangling (separator : Separator)
  | unknownPseudoClass (name : Text)
  | invalidArgument (subject : Subject) (argument : Text) (reason : Reason)
deriving DecidableEq, Repr

/-- The broad classes of causes. -/
inductive ErrorKind where
  | lex
  | structural
  | unknownPseudoClass
  | argument
deriving DecidableEq, Repr

/-- Why a selector is refused, and where. -/
structure Error where
  cause : Cause
  /-- The byte offset in the outermost selector. -/
  offset : Nat
deriving DecidableEq, Repr

/-- How messages name what an argument was given to. -/
def Subject.describe : Subject → String
  | .attribute => "attribute selector"
  | .pseudoClass name => ":" ++ String.ofList name

/-- How messages word the reason. -/
def Reason.describe : Reason → String
  | .missing => "missing argument"
  | .notTaken => "takes no argument"
  | .notAnInteger => "index must be an integer"
  | .notAPosition => "expected an+b, odd or even"
  | .emptySearchText => "search text must not be empty"
  | .emptyPattern => "pattern must not be empty"
  | .invalidPattern message => String.ofList message
  | .emptyNameStart => "empty attribute prefix"
  | .missingName => "missing attribute name"
  | .missingValue => "missing attribute value"

/-- The class a cause belongs to. -/
def Cause.kind : Cause → ErrorKind
  | .unterminatedQuote .. | .unbalanced .. => .lex
  | .unexpected _ | .emptyGroup | .dangling _ => .structural
  | .unknownPseudoClass _ => .unknownPseudoClass
  | .invalidArgument .. => .argument

/-- How a class of causes is displayed. -/
def ErrorKind.describe : ErrorKind → String
  | .lex => "lex"
  | .structural => "syntax"
  | .unknownPseudoClass => "unknown pseudo-class"
  | .argument => "argument"

namespace Error

/-- The displayed error. -/
def message (e : Error) : String :=
  let offset := toString e.offset
  match e.cause with
  | .unterminatedQuote quote fragment =>
    "Unterminated " ++ String.singleton quote ++ " quote in " ++ fragment.quoted ++
      " at offset " ++ offset
  | .unbalanced opening fragment =>
    "Unbalanced " ++ Text.quoted [opening] ++ " in " ++ fragment.quoted ++ " at offset " ++ offset
  | .unexpected fragment =>
    "Unexpected token at " ++ fragment.quoted ++ " (offset " ++ offset ++ ")"
  | .emptyGroup => "Empty selector at offset " ++ offset
  | .dangling separator =>
    "Combinator " ++ Text.quoted [separator.toChar] ++ " at offset " ++ offset ++
      " is not followed by a selector"
  | .unknownPseudoClass name =>
    "Unknown pseudo-class " ++ Text.quoted (':' :: name) ++ " at offset " ++ offset
  | .invalidArgument subject argument reason =>
    "Invalid argument " ++ argument.quoted ++ " for " ++ subject.describe ++ " at offset " ++
      offset ++ ": " ++ reason.describe

/-- The same error seen from `base` bytes further left. -/
def shift (base : Nat) (e : Error) : Error := { e with offset := base + e.offset }

/-- Nothing moves by no bytes. -/
@[simp] theorem shift_zero (e : Error) : e.shift 0 = e := by
  simp [shift]

/-- Moving twice is moving once by both. -/
@[simp] theorem shift_shift (m n : Nat) (e : Error) : (e.shift n).shift m = e.shift (m + n) := by
  simp [shift, Nat.add_assoc]

end Error
end TreeQuery.Selector
