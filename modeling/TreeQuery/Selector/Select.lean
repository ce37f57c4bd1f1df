import TreeQuery.Selector.Matching
import TreeQuery.Selector.Parse

/-!
# Selecting elements

A search looks at its root and at every element below it, in document order, and keeps those that
meet the condition.
-/

namespace TreeQuery.Selector

variable [PatternEngine]

/-- The elements of a subtree that meet a condition, in document order. -/
def select (tree : Tree) (condition : Condition) (root : NodeId) : List NodeId :=
  (tree.elementsFrom root).filter (condition.holds tree root)

/-- The first visited element that meets a condition.  The walk is the one of a search, and it is
left there. -/
def firstVisited? (tree : Tree) (condition : Condition) (root : NodeId) :
    (steps : Nat) → (pending : List NodeId) → Option NodeId
  | 0, _ => none
  | _, [] => none
  | steps + 1, id :: pending =>
    if condition.holds tree root id then some id
    else firstVisited? tree condition root steps (tree.elementChildren id ++ pending)

/-- The first element of a subtree that meets a condition. -/
def selectFirst? (tree : Tree) (condition : Condition) (root : NodeId) : Option NodeId :=
  firstVisited? tree condition root tree.size [root]

/-- The elements that a selector finds in a subtree. -/
def selectText (tree : Tree) (selector : Text) (root : NodeId) : Except Error (List NodeId) :=
  (parse selector).map fun condition => select tree condition root

/-- The elements found from any of the roots, each where it is found first. -/
def selectFromRoots (tree : Tree) (condition : Condition) (roots : List NodeId) : List NodeId :=
  (roots.flatMap (select tree condition)).eraseDups

end TreeQuery.Selector
