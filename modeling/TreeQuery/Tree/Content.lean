import TreeQuery.Tree.Navigation

/-!
# The content of a subtree

The text of a node is that of the text nodes below it, joined and then collapsed, so that words may
run across nodes.  Its own text is that of its children alone.  Its data is what the data nodes and
comments below it hold, as they hold it.
-/

namespace TreeQuery.Tree

/-- The joined text of a node down to `depth` levels, as the nodes hold it. -/
def textWithin (tree : Tree) : (depth : Nat) → NodeId → Text
  | 0, _ => []
  | depth + 1, id =>
    match tree.kind? id with
    | some (.text content) => content
    | some .document | some (.element _) => (tree.children id).flatMap (textWithin tree depth)
    | _ => []

/-- The text of a node and all below it, with white space collapsed. -/
def text (tree : Tree) (id : NodeId) : Text := Text.collapse (tree.textWithin tree.size id)

/-- The text of the children that are text nodes, with white space collapsed. -/
def ownText (tree : Tree) (id : NodeId) : Text :=
  Text.collapse ((tree.children id).flatMap fun child =>
    ((tree.kind? child).bind (·.text?)).getD [])

/-- What the data nodes and comments below a node hold. -/
def data (tree : Tree) (id : NodeId) : Text :=
  (tree.descendants id).flatMap fun below =>
    match tree.kind? below with
    | some (.data content) | some (.comment content) => content
    | _ => []

end TreeQuery.Tree
