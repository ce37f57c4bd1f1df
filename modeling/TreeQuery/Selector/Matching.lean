import TreeQuery.Selector.Condition
import TreeQuery.Tree.Content

/-!
# Meeting a condition

Whether an element meets a condition in a search from a given root.  Combinators never look beyond
the root; `has` makes the element at hand the root of a search of its own.
-/

namespace TreeQuery.Selector

/-- Whether an attribute value compares so with an expected one, which is trimmed and in small
letters.  A missing value only differs. -/
def Comparison.holds (actual : Option Text) (comparison : Comparison) (expected : Text) : Bool :=
  match actual with
  | none => comparison == .differs
  | some value =>
    let value := Text.lower (Text.trim value)
    match comparison with
    | equals => value == expected
    | differs => value != expected
    | startsWith => expected.isPrefixOf value
    | endsWith => expected.isSuffixOf value
    | contains => Text.contains expected value

/-- The position of an element among the counted siblings, from one.  Top-level elements and those
without a parent have none, and neither have positions beyond 32 bits. -/
def Counting.position? (tree : Tree) (counting : Counting) (element : NodeId) : Option Int32 :=
  match tree.parent? element with
  | none => none
  | some parent =>
    if tree.isDocument parent then none
    else
      let counted := (tree.elementChildren parent).filter fun sibling =>
        !counting.ofType || tree.tag sibling == tree.tag element
      let ordered := if counting.fromEnd then counted.reverse else counted
      (ordered.idxOf? element).bind fun index =>
        if index + 1 < 2147483648 then some (Int32.ofNat (index + 1)) else none

/-- Whether an element stands at a place among its siblings. -/
def Placement.holds (tree : Tree) (element : NodeId) : Placement → Bool
  | first ofType => Counting.position? tree ⟨ofType, false⟩ element == some 1
  | last ofType => Counting.position? tree ⟨ofType, true⟩ element == some 1
  | only ofType =>
    Counting.position? tree ⟨ofType, false⟩ element == some 1 &&
      Counting.position? tree ⟨ofType, true⟩ element == some 1

/-- The part of an element's text. -/
def TextPart.of (tree : Tree) (element : NodeId) : TextPart → Text
  | whole => tree.text element
  | own => tree.ownText element

/-- The elements that an element stands to as a combinator says, in a search from `root`.  The root
itself stands to none. -/
def Combinator.related (tree : Tree) (root element : NodeId) (combinator : Combinator) :
    List NodeId :=
  if element = root then []
  else
    match combinator with
    | child => (tree.parent? element).toList
    | descendant => tree.ancestorsWithin root element
    | nextSibling => (tree.previousSibling? element).toList
    | subsequentSibling => tree.previousSiblings element

/-- The topmost element of a search: the root, or the first element of the document. -/
def topmost? (tree : Tree) (root : NodeId) : Option NodeId :=
  if tree.isDocument root then (tree.elementChildren root).head? else some root

namespace Condition

variable [PatternEngine]

mutual

/-- Whether an element meets the condition in a search from `root`. -/
def holds (tree : Tree) (root element : NodeId) : Condition → Bool
  | .universal none => true
  | .universal (some name) => Text.sameIgnoringCase (tree.tag element) name
  | .scope => element == root
  | .tag name => Text.sameIgnoringCase (tree.tag element) name
  | .id value => tree.idAttribute? element == some value
  | .hasClass name => tree.hasClass element name
  | .hasAttribute name => (tree.attribute? element name).isSome
  | .attributeStarting start =>
    (tree.attributeNames element).any fun name => start.isPrefixOf (Text.lower name)
  | .attributeValue name comparison value =>
    comparison.holds (tree.attribute? element name) value
  | .attributeMatches name pattern =>
    (tree.attribute? element name).any (PatternEngine.occursIn pattern)
  | .index order bound => compare (tree.siblingIndex element : Int) bound.toInt == order
  | .nth counting formula => (counting.position? tree element).any formula.includes
  | .placed placement => placement.holds tree element
  | .empty => !tree.hasContent element
  | .root => topmost? tree root == some element
  | .contains part text => Text.contains text (Text.lower (part.of tree element))
  | .containsData text => Text.contains text (Text.lower (tree.data element))
  | .matchesPattern part pattern => PatternEngine.occursIn pattern (part.of tree element)
  | .has inner => (tree.elementsBelow element).any fun below => inner.holds tree element below
  | .not inner => !inner.holds tree root element
  | .all conditions => holdsAll tree root element conditions
  | .any conditions => holdsAny tree root element conditions
  | .related combinator left =>
    (combinator.related tree root element).any fun other => left.holds tree root other

/-- Whether an element meets all of the conditions. -/
def holdsAll (tree : Tree) (root element : NodeId) : List Condition → Bool
  | [] => true
  | condition :: more => condition.holds tree root element && holdsAll tree root element more

/-- Whether an element meets one of the conditions. -/
def holdsAny (tree : Tree) (root element : NodeId) : List Condition → Bool
  | [] => false
  | condition :: more => condition.holds tree root element || holdsAny tree root element more

end

/-- All conditions of a list hold if each one does. -/
theorem holdsAll_eq_all (tree : Tree) (root element : NodeId) (conditions : List Condition) :
    holdsAll tree root element conditions = conditions.all (·.holds tree root element) := by
  induction conditions with
  | nil => rfl
  | cons condition more ih => rw [holdsAll, ih, List.all_cons]

end Condition
end TreeQuery.Selector
