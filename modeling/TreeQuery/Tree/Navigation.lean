import TreeQuery.Tree.Basic

/-!
# Moving about in a tree

Elements and the document are what one moves between: to the parent, to the children that are
elements, to siblings, and through everything below in document order.  The walks are bounded by the
number of nodes, which is enough wherever no node is its own ancestor.
-/

namespace TreeQuery.Tree

/-- What a node is. -/
def kind? (tree : Tree) (id : NodeId) : Option NodeKind := (tree.get? id).map (·.kind)

/-- The element under a number, if it is one. -/
def element? (tree : Tree) (id : NodeId) : Option Element := (tree.kind? id).bind (·.element?)

/-- Whether a number is that of an element. -/
def isElement (tree : Tree) (id : NodeId) : Bool := (tree.kind? id).any (·.isElement)

/-- Whether a number is that of an element or the document. -/
def isElementLike (tree : Tree) (id : NodeId) : Bool := (tree.kind? id).any (·.isContainer)

/-- Whether a number is that of the document. -/
def isDocument (tree : Tree) (id : NodeId) : Bool := tree.kind? id == some .document

/-- The tag of an element or the document, and nothing for any other number. -/
def tag (tree : Tree) (id : NodeId) : Text := ((tree.kind? id).bind (·.tag?)).getD []

/-- The value of an attribute. -/
def attribute? (tree : Tree) (id : NodeId) (name : Text) : Option Text :=
  (tree.element? id).bind (·.attribute? name)

/-- The value of the `id` attribute. -/
def idAttribute? (tree : Tree) (id : NodeId) : Option Text := tree.attribute? id "id".toList

/-- The attribute names of an element, in ascending order. -/
def attributeNames (tree : Tree) (id : NodeId) : List Text :=
  ((tree.element? id).map (·.attributes.names)).getD []

/-- The classes of an element. -/
def classes (tree : Tree) (id : NodeId) : List Text := ((tree.element? id).map (·.classes)).getD []

/-- Whether an element is of a class, up to case. -/
def hasClass (tree : Tree) (id : NodeId) (name : Text) : Bool :=
  (tree.element? id).any (·.hasClass name)

/-- The parent, which is an element or the document. -/
def parent? (tree : Tree) (id : NodeId) : Option NodeId :=
  ((tree.get? id).bind (·.parent)).filter tree.isElementLike

/-- The children that are elements. -/
def elementChildren (tree : Tree) (id : NodeId) : List NodeId :=
  (tree.children id).filter tree.isElement

/-- Whether a node has children other than comments. -/
def hasContent (tree : Tree) (id : NodeId) : Bool :=
  (tree.children id).any fun child =>
    match tree.kind? child with
    | none | some (.comment _) => false
    | some _ => true

/-! ### Siblings -/

/-- The element children of the parent, the element itself among them. -/
def siblings (tree : Tree) (id : NodeId) : List NodeId :=
  match tree.parent? id with
  | some parent => tree.elementChildren parent
  | none => []

/-- How many element siblings come before; none do without a parent. -/
def siblingIndex (tree : Tree) (id : NodeId) : Nat := ((tree.siblings id).idxOf? id).getD 0

/-- The element sibling right before. -/
def previousSibling? (tree : Tree) (id : NodeId) : Option NodeId :=
  match (tree.siblings id).idxOf? id with
  | some (index + 1) => (tree.siblings id)[index]?
  | _ => none

/-- All element siblings before, the nearest first. -/
def previousSiblings (tree : Tree) (id : NodeId) : List NodeId :=
  match (tree.siblings id).idxOf? id with
  | some index => ((tree.siblings id).take index).reverse
  | none => []

/-! ### Walks -/

/-- The nodes at most `depth` levels below a node, in document order. -/
def descendantsWithin (tree : Tree) : (depth : Nat) → NodeId → List NodeId
  | 0, _ => []
  | depth + 1, id =>
    (tree.children id).flatMap fun child => child :: descendantsWithin tree depth child

/-- All nodes below a node, in document order. -/
def descendants (tree : Tree) (id : NodeId) : List NodeId := tree.descendantsWithin tree.size id

/-- Visits the pending elements and everything below them, the first one first, for at most `steps`
steps. -/
def visit (tree : Tree) : (steps : Nat) → (pending : List NodeId) → List NodeId
  | 0, _ => []
  | _, [] => []
  | steps + 1, id :: pending => id :: visit tree steps (tree.elementChildren id ++ pending)

/-- The elements of a subtree in document order, its root first. -/
def elementsFrom (tree : Tree) (root : NodeId) : List NodeId := tree.visit tree.size [root]

/-- The elements below a node, in document order. -/
def elementsBelow (tree : Tree) (id : NodeId) : List NodeId :=
  tree.visit tree.size (tree.elementChildren id)

/-- The ancestors up to and including `root`, the nearest first, at most `steps` of them. -/
def climb (tree : Tree) (root : NodeId) : (steps : Nat) → NodeId → List NodeId
  | 0, _ => []
  | steps + 1, id =>
    match tree.parent? id with
    | none => []
    | some parent => parent :: if parent = root then [] else climb tree root steps parent

/-- The ancestors of an element up to and including `root`, the nearest first. -/
def ancestorsWithin (tree : Tree) (root id : NodeId) : List NodeId := tree.climb root tree.size id

end TreeQuery.Tree
