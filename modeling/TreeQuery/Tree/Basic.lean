import TreeQuery.Tree.Node

/-!
# Trees

A tree is a table of nodes, numbered from zero, with the document first.  No node is ever taken out,
so the next number is the size of the table, and a node need not hold its own.  Nodes are created on
their own and attached to a parent once.  An operation that fails leaves the tree as it was, except
that those which create a node and then attach it keep the new node, unattached.
-/

namespace TreeQuery

/-- Why a change to a tree is refused. -/
inductive TreeError where
  | nodeNotFound (id : NodeId)
  | notAContainer (parent child : NodeId)
  | alreadyAttached (id : NodeId)
deriving DecidableEq, Repr

/-- The displayed error. -/
def TreeError.message : TreeError → String
  | nodeNotFound id => "Node not found: " ++ toString id
  | notAContainer parent child =>
    "Cannot append " ++ toString child ++ " to " ++ toString parent ++
      ": parent cannot hold children"
  | alreadyAttached id => "Node " ++ toString id ++ " already has a parent"

/-- A table of linked nodes. -/
structure Tree where
  nodes : Array Node
deriving DecidableEq, Repr

namespace Tree

/-- The number of the document. -/
def documentId : NodeId := 0

/-- The tree that has a document and nothing else. -/
def new : Tree := ⟨#[⟨.document, none, []⟩]⟩

/-- The number of nodes. -/
def size (tree : Tree) : Nat := tree.nodes.size

/-- Whether there is no node but the document. -/
def isEmpty (tree : Tree) : Bool := tree.size ≤ 1

/-- The node of a given number. -/
def get? (tree : Tree) (id : NodeId) : Option Node := tree.nodes[id]?

/-- The children of a node; a missing node has none. -/
def children (tree : Tree) (id : NodeId) : List NodeId :=
  match tree.get? id with
  | some node => node.children
  | none => []

/-! ### Changes -/

/-- The tree with a new, unattached node, whose number was the size of the tree. -/
def create (tree : Tree) (kind : NodeKind) : Tree := ⟨tree.nodes.push ⟨kind, none, []⟩⟩

/-- The tree with an attribute of an element set. -/
def setAttribute (tree : Tree) (id : NodeId) (name value : Text) : Except TreeError Tree :=
  match (tree.get? id).bind (·.kind.element?) with
  | none => .error (.nodeNotFound id)
  | some element =>
    .ok ⟨tree.nodes.modify id fun node =>
      { node with kind := .element (element.setAttribute name value) }⟩

/-- The tree with `child` linked as the last child of `parent`. -/
def link (tree : Tree) (parent child : NodeId) : Tree :=
  ⟨(tree.nodes.modify child fun node => { node with parent := some parent }).modify parent
    fun node => { node with children := node.children ++ [child] }⟩

/-- Attaches a node as the last child of a container.  Errors are looked for in the order: no such
parent, no container, no such child, already attached. -/
def appendChild (tree : Tree) (parent child : NodeId) : Except TreeError Tree :=
  match tree.get? parent with
  | none => .error (.nodeNotFound parent)
  | some above =>
    if above.kind.isContainer then
      match tree.get? child with
      | none => .error (.nodeNotFound child)
      | some below =>
        if below.parent.isSome then .error (.alreadyAttached child)
        else .ok (tree.link parent child)
    else .error (.notAContainer parent child)

/-- Creates a node and attaches it; answers its number.  If it cannot be attached it stays in the
tree on its own. -/
def appendNew (tree : Tree) (parent : NodeId) (kind : NodeKind) : Except TreeError NodeId × Tree :=
  let id := tree.size
  let created := tree.create kind
  match created.appendChild parent id with
  | .error e => (.error e, created)
  | .ok attached => (.ok id, attached)

/-- Creates an element with attributes, set in the given order, and attaches it. -/
def appendElement (tree : Tree) (parent : NodeId) (tag : Text) (attributes : List (Text × Text)) :
    Except TreeError NodeId × Tree :=
  tree.appendNew parent (.element (.ofPairs tag attributes))

/-- Creates a text node and attaches it. -/
def appendText (tree : Tree) (parent : NodeId) (content : Text) : Except TreeError NodeId × Tree :=
  tree.appendNew parent (.text content)

/-- Creates a data node and attaches it. -/
def appendData (tree : Tree) (parent : NodeId) (content : Text) : Except TreeError NodeId × Tree :=
  tree.appendNew parent (.data content)

/-! ### Small lemmas -/

/-- The new node is under the next number, and the old ones are where they were. -/
theorem get?_create (tree : Tree) (kind : NodeKind) (id : NodeId) :
    (tree.create kind).get? id =
      if id = tree.size then some ⟨kind, none, []⟩ else tree.get? id := by
  rw [get?, create, Array.getElem?_push]
  rfl

/-- One more number is in use. -/
@[simp] theorem size_create (tree : Tree) (kind : NodeKind) :
    (tree.create kind).size = tree.size + 1 := by
  simp [size, create]

/-- A link changes no number. -/
@[simp] theorem size_link (tree : Tree) (parent child : NodeId) :
    (tree.link parent child).size = tree.size := by
  simp [size, link]

end Tree
end TreeQuery
