import TreeQuery.Proofs.Text.LetterCase
import TreeQuery.Tree.Content

/-!
# Letter case in trees

A tree may be written with its attribute values and its contents in small letters.  All walks in it
stay as they are, and what is read from it is what was read before, in small letters.
-/

namespace TreeQuery

/-! ### Trees in small letters -/

/-- The attributes with their values in small letters. -/
def Attributes.lower (attributes : Attributes) : Attributes where
  entries := attributes.entries.map fun entry => (entry.1, Text.lower entry.2)
  sorted := List.pairwise_map.2 attributes.sorted

/-- The same attributes are set, with lower-cased values. -/
lemma Attributes.get?_lower (attributes : Attributes) (name : Text) :
    attributes.lower.get? name = (attributes.get? name).map Text.lower := by
  rw [get?, get?, lower, List.find?_map, Option.map_map, Option.map_map]
  rfl

namespace Element

/-- The element with its values in small letters. -/
def lower (element : Element) : Element :=
  { element with attributes := element.attributes.lower }

variable (element : Element) (name : Text)

/-- The values of the attributes are lower-cased. -/
lemma attribute?_lower : element.lower.attribute? name = (element.attribute? name).map Text.lower :=
  element.attributes.get?_lower (Text.lower name)

/-- The class attribute and so the classes are lower-cased. -/
lemma classes_lower : element.lower.classes = element.classes.map Text.lower := by
  rw [classes, classes, attribute?_lower]
  cases element.attribute? "class".toList with
  | none => rfl
  | some value => exact Text.words_lower value

/-- An element is of a class in small letters if its own classes are, and it is of the class. -/
lemma hasClass_lower : element.lower.hasClass (Text.lower name) = element.hasClass name := by
  rw [hasClass, hasClass, classes_lower, List.any_map]
  refine congrArg element.classes.any (funext fun c => ?_)
  change (Text.lower (Text.lower c) == Text.lower (Text.lower name)) = _
  rw [Text.lower_lower, Text.lower_lower]
  rfl

end Element

namespace NodeKind

/-- What the node is, with its values or its content in small letters. -/
def lower : NodeKind → NodeKind
  | document => document
  | element e => element e.lower
  | text content => text (Text.lower content)
  | data content => data (Text.lower content)
  | comment content => comment (Text.lower content)

variable (kind : NodeKind)

/-- Letter case does not matter for what may have children. -/
@[simp] lemma isContainer_lower : kind.lower.isContainer = kind.isContainer := by cases kind <;> rfl

/-- Letter case does not matter for what is an element. -/
@[simp] lemma isElement_lower : kind.lower.isElement = kind.isElement := by cases kind <;> rfl

/-- Tags are in small letters already. -/
@[simp] lemma tag?_lower : kind.lower.tag? = kind.tag? := by cases kind <;> rfl

/-- An element is the one with lower-cased values. -/
@[simp] lemma element?_lower : kind.lower.element? = kind.element?.map Element.lower := by
  cases kind <;> rfl

end NodeKind

/-- The node with its values or its content in small letters. -/
def Node.lower (node : Node) : Node := { node with kind := node.kind.lower }

namespace Tree

/-- The tree with all values and contents in small letters. -/
def lower (tree : Tree) : Tree := ⟨tree.nodes.map Node.lower⟩

/-- Two trees have the same nodes with the same links, tags and attribute names, and differ at most
in the letter case of attribute values and contents. -/
def SameIgnoringCase (left right : Tree) : Prop := left.lower = right.lower

/-- Trees are compared node by node. -/
lemma sameIgnoringCase_iff {left right : Tree} : left.SameIgnoringCase right ↔
    left.nodes.toList.map Node.lower = right.nodes.toList.map Node.lower := by
  rw [← Array.toList_map, ← Array.toList_map, Array.toList_inj]
  exact ⟨congrArg nodes, congrArg mk⟩

instance (left right : Tree) : Decidable (left.SameIgnoringCase right) :=
  decidable_of_iff _ sameIgnoringCase_iff.symm

variable (tree : Tree) (id : NodeId)

/-- Lower-casing changes no number. -/
@[simp] lemma size_lower : tree.lower.size = tree.size := Array.size_map

/-- Lower-casing changes each node by itself. -/
lemma get?_lower : tree.lower.get? id = (tree.get? id).map Node.lower := Array.getElem?_map

/-- Lower-casing keeps the kind of a node apart from what is in it. -/
lemma kind?_lower : tree.lower.kind? id = (tree.kind? id).map NodeKind.lower := by
  rw [kind?, kind?, get?_lower, Option.map_map, Option.map_map]
  rfl

/-- Lower-casing changes no children. -/
lemma children_lower : tree.lower.children id = tree.children id := by
  rw [children, children, get?_lower]
  cases tree.get? id <;> rfl

/-! ### Walks -/

/-- Lower-casing keeps elements. -/
lemma isElement_lower : tree.lower.isElement = tree.isElement := by
  funext id
  rw [isElement, isElement, kind?_lower]
  cases tree.kind? id <;> simp

/-- Lower-casing keeps what takes part in selection. -/
lemma isElementLike_lower : tree.lower.isElementLike = tree.isElementLike := by
  funext id
  rw [isElementLike, isElementLike, kind?_lower]
  cases tree.kind? id <;> simp

/-- Lower-casing keeps the document. -/
lemma isDocument_lower : tree.lower.isDocument id = tree.isDocument id := by
  rw [isDocument, isDocument, kind?_lower]
  cases tree.kind? id with
  | none => rfl
  | some kind => cases kind <;> rfl

/-- Lower-casing keeps tags. -/
lemma tag_lower : tree.lower.tag id = tree.tag id := by
  rw [tag, tag, kind?_lower]
  cases tree.kind? id <;> simp

/-- Lower-casing changes no parents. -/
lemma parent?_lower : tree.lower.parent? id = tree.parent? id := by
  rw [parent?, parent?, get?_lower, isElementLike_lower]
  cases tree.get? id <;> rfl

/-- Lower-casing keeps the children that are elements. -/
lemma elementChildren_lower : tree.lower.elementChildren id = tree.elementChildren id := by
  rw [elementChildren, elementChildren, children_lower, isElement_lower]

/-- Lower-casing keeps siblings. -/
lemma siblings_lower : tree.lower.siblings id = tree.siblings id := by
  rw [siblings, siblings, parent?_lower]
  cases tree.parent? id with
  | none => rfl
  | some parent => exact elementChildren_lower tree parent

/-- Lower-casing keeps the index among siblings. -/
lemma siblingIndex_lower : tree.lower.siblingIndex id = tree.siblingIndex id := by
  rw [siblingIndex, siblingIndex, siblings_lower]

/-- Lower-casing keeps the sibling in front. -/
lemma previousSibling?_lower : tree.lower.previousSibling? id = tree.previousSibling? id := by
  unfold previousSibling?
  rw [siblings_lower]

/-- Lower-casing keeps the siblings in front. -/
lemma previousSiblings_lower : tree.lower.previousSiblings id = tree.previousSiblings id := by
  unfold previousSiblings
  rw [siblings_lower]

/-- Lower-casing keeps what is below a node. -/
lemma descendantsWithin_lower (depth : Nat) :
    tree.lower.descendantsWithin depth id = tree.descendantsWithin depth id := by
  induction depth generalizing id with
  | zero => rfl
  | succ depth ih =>
    rw [descendantsWithin, descendantsWithin, children_lower]
    exact List.flatMap_congr fun child _ => congrArg (child :: ·) (ih child)

/-- A walk goes the same way. -/
lemma visit_lower (steps : Nat) (pending : List NodeId) :
    tree.lower.visit steps pending = tree.visit steps pending := by
  induction steps generalizing pending with
  | zero => rfl
  | succ steps ih =>
    cases pending with
    | nil => rfl
    | cons id pending => rw [visit, visit, elementChildren_lower, ih]

/-- The way up is the same. -/
lemma climb_lower (root : NodeId) (steps : Nat) :
    tree.lower.climb root steps id = tree.climb root steps id := by
  induction steps generalizing id with
  | zero => rfl
  | succ steps ih =>
    rw [climb, climb, parent?_lower]
    cases tree.parent? id with
    | none => rfl
    | some parent => simp only [ih]

/-- Lower-casing keeps the elements of a subtree. -/
lemma elementsFrom_lower (root : NodeId) :
    tree.lower.elementsFrom root = tree.elementsFrom root := by
  rw [elementsFrom, elementsFrom, size_lower, visit_lower]

/-- Lower-casing keeps the elements below a node. -/
lemma elementsBelow_lower : tree.lower.elementsBelow id = tree.elementsBelow id := by
  rw [elementsBelow, elementsBelow, size_lower, elementChildren_lower, visit_lower]

/-- Lower-casing keeps ancestors. -/
lemma ancestorsWithin_lower (root : NodeId) :
    tree.lower.ancestorsWithin root id = tree.ancestorsWithin root id := by
  rw [ancestorsWithin, ancestorsWithin, size_lower, climb_lower]

/-- Lower-casing keeps whether there is content. -/
lemma hasContent_lower : tree.lower.hasContent id = tree.hasContent id := by
  rw [hasContent, hasContent, children_lower]
  refine congrArg (List.any _) (funext fun child => ?_)
  rw [kind?_lower]
  cases tree.kind? child with
  | none => rfl
  | some kind => cases kind <;> rfl

/-! ### Values -/

/-- The element of a node is the one with lower-cased values. -/
lemma element?_lower : tree.lower.element? id = (tree.element? id).map Element.lower := by
  rw [element?, element?, kind?_lower]
  cases tree.kind? id <;> simp

/-- Attribute names are in small letters already. -/
lemma attributeNames_lower : tree.lower.attributeNames id = tree.attributeNames id := by
  rw [attributeNames, attributeNames, element?_lower, Option.map_map]
  cases tree.element? id with
  | none => rfl
  | some element => exact List.map_map

/-- The attributes of a node have lower-cased values. -/
lemma attribute?_lower (name : Text) :
    tree.lower.attribute? id name = (tree.attribute? id name).map Text.lower := by
  rw [attribute?, attribute?, element?_lower]
  cases tree.element? id with
  | none => rfl
  | some element => exact element.attribute?_lower name

/-- The same classes are found, as they are compared in any case. -/
lemma hasClass_lower (name : Text) :
    tree.lower.hasClass id (Text.lower name) = tree.hasClass id name := by
  rw [hasClass, hasClass, element?_lower]
  cases tree.element? id with
  | none => rfl
  | some element => exact element.hasClass_lower name

/-! ### Contents -/

/-- Lower-casing the texts below a node lower-cases what is put together of them. -/
lemma textWithin_lower (depth : Nat) :
    tree.lower.textWithin depth id = Text.lower (tree.textWithin depth id) := by
  induction depth generalizing id with
  | zero => rfl
  | succ depth ih =>
    have below : (tree.children id).flatMap (tree.lower.textWithin depth) =
        Text.lower ((tree.children id).flatMap (tree.textWithin depth)) := by
      rw [Text.lower_flatMap]
      exact List.flatMap_congr fun child _ => ih child
    rw [textWithin, textWithin, children_lower, kind?_lower]
    cases tree.kind? id with
    | none => rfl
    | some kind =>
      cases kind with
      | document | element => exact below
      | text | data | comment => rfl

/-- The text of a node is lower-cased. -/
lemma text_lower : tree.lower.text id = Text.lower (tree.text id) := by
  rw [text, text, size_lower, textWithin_lower, Text.lower_collapse]

/-- The own text of a node is lower-cased. -/
lemma ownText_lower : tree.lower.ownText id = Text.lower (tree.ownText id) := by
  rw [ownText, ownText, children_lower, Text.lower_collapse, Text.lower_flatMap]
  refine congrArg Text.collapse (List.flatMap_congr fun child _ => ?_)
  rw [kind?_lower]
  cases tree.kind? child with
  | none => rfl
  | some kind => cases kind <;> rfl

/-- The data of a node are lower-cased. -/
lemma data_lower : tree.lower.data id = Text.lower (tree.data id) := by
  rw [data, data, descendants, descendants, size_lower, descendantsWithin_lower,
    Text.lower_flatMap]
  refine List.flatMap_congr fun below _ => ?_
  rw [kind?_lower]
  cases tree.kind? below with
  | none => rfl
  | some kind => cases kind <;> rfl

end Tree
end TreeQuery
