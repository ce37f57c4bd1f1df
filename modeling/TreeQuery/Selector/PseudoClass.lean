import TreeQuery.Selector.Condition
import TreeQuery.Selector.Error
import TreeQuery.Text.Escape

/-!
# Pseudo-classes

A pseudo-class either is a condition by itself or takes an argument, which it reads in its own way.
Names are known in any case.  The argument of `has` and of `not` is a selector of its own; how such
a one is compiled is a parameter here.
-/

namespace TreeQuery.Selector

/-- How a pseudo-class takes its argument. -/
inductive Parameter where
  /-- An integer to compare the index with. -/
  | index (order : Ordering)
  /-- A formula for positions. -/
  | nth (counting : Counting)
  /-- Text to look for. -/
  | contains (part : TextPart)
  | containsData
  /-- A pattern to look for. -/
  | matchesPattern (part : TextPart)
  /-- A selector to meet somewhere below. -/
  | has
  /-- A selector not to meet. -/
  | not
deriving DecidableEq, Repr

variable [PatternEngine]

/-- What the name of a pseudo-class stands for. -/
inductive PseudoClass where
  | plain (condition : Condition)
  | withArgument (parameter : Parameter)

namespace PseudoClass

/-- The pseudo-classes under their names. -/
def table : List (Text × PseudoClass) :=
  [("lt".toList, withArgument (.index .lt)),
    ("gt".toList, withArgument (.index .gt)),
    ("eq".toList, withArgument (.index .eq)),
    ("nth-child".toList, withArgument (.nth ⟨false, false⟩)),
    ("nth-last-child".toList, withArgument (.nth ⟨false, true⟩)),
    ("nth-of-type".toList, withArgument (.nth ⟨true, false⟩)),
    ("nth-last-of-type".toList, withArgument (.nth ⟨true, true⟩)),
    ("contains".toList, withArgument (.contains .whole)),
    ("containsown".toList, withArgument (.contains .own)),
    ("containsdata".toList, withArgument .containsData),
    ("matches".toList, withArgument (.matchesPattern .whole)),
    ("matchesown".toList, withArgument (.matchesPattern .own)),
    ("has".toList, withArgument .has),
    ("not".toList, withArgument .not),
    ("first-child".toList, plain (.placed (.first false))),
    ("last-child".toList, plain (.placed (.last false))),
    ("first-of-type".toList, plain (.placed (.first true))),
    ("last-of-type".toList, plain (.placed (.last true))),
    ("only-child".toList, plain (.placed (.only false))),
    ("only-of-type".toList, plain (.placed (.only true))),
    ("empty".toList, plain .empty),
    ("root".toList, plain .root)]

/-- The pseudo-class of a name in any case. -/
def ofName? (name : Text) : Option PseudoClass := table.lookup (Text.lower name)

end PseudoClass

/-- How a selector inside another one is compiled, given the offset at which it starts. -/
abbrev Nested := Text → Nat → Except Error Condition

namespace Parameter

/-- The integer that the argument of an index test denotes, if 32 bits hold it. -/
def integer? (argument : Text) : Option Int32 :=
  (Text.toInt? (Text.trim argument)).bind fun i =>
    if -2147483648 ≤ i ∧ i ≤ 2147483647 then some (Int32.ofInt i) else none

/-- The text to look for: escapes are undone, and case does not count. -/
def searchText (argument : Text) : Except Reason Text :=
  match Text.unescape argument with
  | [] => .error .emptySearchText
  | text => .ok (Text.lower text)

/-- The pattern to look for. -/
def pattern (argument : Text) : Except Reason PatternEngine.Compiled :=
  if argument.isEmpty then .error .emptyPattern
  else (PatternEngine.compile argument).mapError .invalidPattern

/-- The condition that the pseudo-class `name` makes of an argument that starts at `offset`. -/
def read (nested : Nested) (name argument : Text) (offset : Nat) :
    Parameter → Except Error Condition
  | index order => explain ((orElse (integer? argument) .notAnInteger).map (.index order))
  | nth counting => explain ((orElse (Nth.read? argument) .notAPosition).map (.nth counting))
  | contains part => explain ((searchText argument).map (.contains part))
  | containsData => explain ((searchText argument).map .containsData)
  | matchesPattern part => explain ((pattern argument).map (.matchesPattern part))
  | has => (nested argument offset).map .has
  | not => (nested argument offset).map .not
where
  explain (result : Except Reason Condition) : Except Error Condition :=
    result.mapError fun reason => ⟨.invalidArgument (.pseudoClass name) argument reason, offset⟩
  orElse {α : Type} (value : Option α) (reason : Reason) : Except Reason α :=
    match value with
    | some a => .ok a
    | none => .error reason

end Parameter

/-- The condition of the pseudo-class `name`, whose colon stands at `offset`, with its argument and
the offset of that, if it has one. -/
def PseudoClass.compile (nested : Nested) (name : Text) (offset : Nat)
    (argument : Option (Text × Nat)) : Except Error Condition :=
  match ofName? name, argument with
  | none, _ => .error ⟨.unknownPseudoClass name, offset⟩
  | some (plain condition), none => .ok condition
  | some (plain _), some (argument, start) =>
    .error ⟨.invalidArgument (.pseudoClass name) argument .notTaken, start⟩
  | some (withArgument _), none =>
    .error ⟨.invalidArgument (.pseudoClass name) [] .missing, offset⟩
  | some (withArgument parameter), some (argument, start) =>
    parameter.read nested name argument start

end TreeQuery.Selector
