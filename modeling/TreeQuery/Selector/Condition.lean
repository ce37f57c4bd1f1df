import TreeQuery.Pattern.Engine
import TreeQuery.Selector.Nth
import TreeQuery.Selector.Separator

/-!
# Conditions on elements

A selector compiles to a condition, which an element meets or not when it is looked at from the root
of a search.  Conditions are trees: simple tests, their combinations, conditions on what is below,
and conditions on the element that a combinator relates to.  Patterns are those of any engine.
-/

namespace TreeQuery.Selector
open PatternEngine (Compiled)

/-- How an attribute value is compared. -/
inductive Comparison where
  | equals
  | differs
  | startsWith
  | endsWith
  | contains
deriving DecidableEq, Repr

/-- Which siblings are counted to find the position of an element. -/
structure Counting where
  /-- Whether only siblings of the same tag count. -/
  ofType : Bool
  /-- Whether the last sibling counts as the first. -/
  fromEnd : Bool
deriving DecidableEq, Repr

/-- The places at the edges of a list of siblings, among all of them or among those of one tag. -/
inductive Placement where
  | first (ofType : Bool)
  | last (ofType : Bool)
  | only (ofType : Bool)
deriving DecidableEq, Repr

/-- Which text of an element is looked at. -/
inductive TextPart where
  /-- The text of the element and all below it. -/
  | whole
  /-- The text of the element's own text nodes. -/
  | own
deriving DecidableEq, Repr

variable [PatternEngine]

/-- A condition on an element in a search. -/
inductive Condition where
  /-- Any element, or any of the given tag. -/
  | universal (tag : Option Text)
  /-- The root of the search. -/
  | scope
  | tag (name : Text)
  | id (value : Text)
  | hasClass (name : Text)
  | hasAttribute (name : Text)
  /-- Some attribute name starts so. -/
  | attributeStarting (start : Text)
  | attributeValue (name : Text) (comparison : Comparison) (value : Text)
  | attributeMatches (name : Text) (pattern : Compiled)
  /-- The index among the siblings, from zero, compares so with a number. -/
  | index (order : Ordering) (bound : Int32)
  | nth (counting : Counting) (formula : Nth)
  | placed (placement : Placement)
  /-- Nothing but comments is in the element. -/
  | empty
  /-- The topmost element of the search. -/
  | root
  | contains (part : TextPart) (text : Text)
  | containsData (text : Text)
  | matchesPattern (part : TextPart) (pattern : Compiled)
  /-- Some element below meets the condition, in a search from this element. -/
  | has (inner : Condition)
  | not (inner : Condition)
  | all (conditions : List Condition)
  | any (conditions : List Condition)
  /-- An element that this one stands to as the combinator says meets the condition. -/
  | related (combinator : Combinator) (left : Condition)

namespace Comparison

/-- The operator of the comparison. -/
def symbol : Comparison → Text
  | equals => "=".toList
  | differs => "!=".toList
  | startsWith => "^=".toList
  | endsWith => "$=".toList
  | contains => "*=".toList

end Comparison

namespace Counting

/-- The pseudo-class that counts so. -/
def pseudoClass : Counting → Text
  | ⟨false, false⟩ => "nth-child".toList
  | ⟨false, true⟩ => "nth-last-child".toList
  | ⟨true, false⟩ => "nth-of-type".toList
  | ⟨true, true⟩ => "nth-last-of-type".toList

end Counting

namespace Placement

/-- The pseudo-class for the place. -/
def pseudoClass : Placement → Text
  | first false => "first-child".toList
  | last false => "last-child".toList
  | first true => "first-of-type".toList
  | last true => "last-of-type".toList
  | only false => "only-child".toList
  | only true => "only-of-type".toList

end Placement

namespace Condition

/-- The condition that all of the given ones hold, which is the condition itself if it is alone. -/
def allOf : List Condition → Condition
  | [condition] => condition
  | conditions => all conditions

/-- The condition that one of the given ones holds, which is the condition itself if it is alone. -/
def anyOf : List Condition → Condition
  | [condition] => condition
  | conditions => any conditions

/-- The condition of a compound to the right of a combinator. -/
def combine (left : Condition) (combinator : Combinator) (right : Condition) : Condition :=
  all [right, related combinator left]

/-! ### Written form -/

/-- A pseudo-class with its argument. -/
def renderCall (name : Text) (argument : Text) : Text := ':' :: name ++ '(' :: argument ++ [')']

/-- The pseudo-class for an index. -/
def indexClass : Ordering → Text
  | .lt => "lt".toList
  | .gt => "gt".toList
  | .eq => "eq".toList

/-- What is written in front of a condition on a related element. -/
def relationMark : Combinator → Text
  | .child => ":ImmediateParent".toList
  | .descendant => ":parent".toList
  | .nextSibling => ":prev".toList
  | .subsequentSibling => ":prev*".toList

mutual

/-- The canonical written form of a condition. -/
def render : Condition → Text
  | universal none => ['*']
  | universal (some name) => '*' :: name
  | scope => ":scope".toList
  | tag name => name
  | id value => '#' :: value
  | hasClass name => '.' :: name
  | hasAttribute name => '[' :: name ++ [']']
  | attributeStarting start => '[' :: '^' :: start ++ [']']
  | attributeValue name comparison value => '[' :: name ++ comparison.symbol ++ value ++ [']']
  | attributeMatches name pattern =>
    '[' :: name ++ "~=".toList ++ PatternEngine.source pattern ++ [']']
  | index order bound => renderCall (indexClass order) (Text.ofInt bound.toInt)
  | nth counting formula => renderCall counting.pseudoClass formula.render
  | placed placement => ':' :: placement.pseudoClass
  | empty => ":empty".toList
  | root => ":root".toList
  | contains .whole text => renderCall "contains".toList text
  | contains .own text => renderCall "containsOwn".toList text
  | containsData text => renderCall "containsData".toList text
  | matchesPattern .whole pattern => renderCall "matches".toList (PatternEngine.source pattern)
  | matchesPattern .own pattern => renderCall "matchesOwn".toList (PatternEngine.source pattern)
  | has inner => renderCall "has".toList inner.render
  | not inner => renderCall "not".toList inner.render
  | all conditions => renderList " ".toList conditions
  | any conditions => renderList ", ".toList conditions
  | related combinator left => relationMark combinator ++ left.render

/-- The written forms of conditions with a separator between neighbours. -/
def renderList (separator : Text) : List Condition → Text
  | [] => []
  | [condition] => condition.render
  | condition :: next :: more =>
    condition.render ++ separator ++ renderList separator (next :: more)

end

end Condition
end TreeQuery.Selector
