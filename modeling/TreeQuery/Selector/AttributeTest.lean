import TreeQuery.Selector.Condition
import TreeQuery.Selector.Error
import TreeQuery.Selector.Region

/-!
# Tests on attributes

Between square brackets stands the name of an attribute, or a name, an operator and a value, or the
start of a name after a circumflex.  The value may be quoted.  Names and values are compared in
small letters; patterns are taken as written.
-/

namespace TreeQuery.Selector.AttributeTest

variable [PatternEngine]

/-- What an operator does with the value after it. -/
inductive Operator where
  | compare (comparison : Comparison)
  | matchPattern
deriving DecidableEq, Repr

/-- The operator that a character makes together with the equals sign after it. -/
def Operator.ofMark? : Char → Option Operator
  | '!' => some (.compare .differs)
  | '^' => some (.compare .startsWith)
  | '$' => some (.compare .endsWith)
  | '*' => some (.compare .contains)
  | '~' => some .matchPattern
  | _ => none

/-- The text without the quotes around it, if it has the same quote at both ends. -/
def unquote (t : Text) : Text :=
  match t with
  | [] => []
  | quote :: rest => if isQuote quote && rest.getLast? == some quote then rest.dropLast else t

/-- The name and the operator that stand before the equals sign. -/
def splitOperator (before : Text) : Text × Operator :=
  match before.getLast?.bind Operator.ofMark? with
  | some operator => (before.dropLast, operator)
  | none => (before, .compare .equals)

/-- A test without an equals sign. -/
def readName (inner : Text) : Except Reason Condition :=
  match Text.trim inner with
  | [] => .error .missingName
  | ['^'] => .error .emptyNameStart
  | '^' :: start => .ok (.attributeStarting (Text.lower start))
  | name => .ok (.hasAttribute (Text.lower name))

/-- Reads what stands between the square brackets at `offset`. -/
def read (inner : Text) (offset : Nat) : Except Error Condition :=
  let refuse (argument : Text) (reason : Reason) : Except Error Condition :=
    .error ⟨.invalidArgument .attribute argument reason, offset⟩
  match inner.dropWhile (· != '=') with
  | [] =>
    match readName inner with
    | .ok condition => .ok condition
    | .error reason => refuse inner reason
  | _ :: after =>
    let (before, operator) := splitOperator (inner.takeWhile (· != '='))
    let name := Text.lower (Text.trim before)
    let value := Text.trim (unquote (Text.trim after))
    if name.isEmpty then refuse inner .missingName
    else if value.isEmpty then refuse inner .missingValue
    else
      match operator with
      | .compare comparison => .ok (.attributeValue name comparison (Text.lower value))
      | .matchPattern =>
        match PatternEngine.compile value with
        | .ok pattern => .ok (.attributeMatches name pattern)
        | .error message => refuse value (.invalidPattern message)

end TreeQuery.Selector.AttributeTest
