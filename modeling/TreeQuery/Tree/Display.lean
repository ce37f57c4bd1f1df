import TreeQuery.Tree.Navigation

/-!
# Short descriptions

One-line texts for nodes and trees, as messages and results show them.
-/

namespace TreeQuery.Tree

/-- The displayed number of a node. -/
def displayId (id : NodeId) : String := "NodeId(" ++ toString id ++ ")"

/-- The displayed summary of a tree. -/
def summary (tree : Tree) : String :=
  "DomTree \x7b document: " ++ displayId documentId ++ ", nodes: " ++ toString tree.size ++ " \x7d"

/-- The displayed form of an element: its tag, its `id` attribute if it has one, and its number. -/
def label (tree : Tree) (id : NodeId) : String :=
  let idPart := match tree.idAttribute? id with
    | some value => " id=\"" ++ String.ofList value ++ "\""
    | none => ""
  "<" ++ String.ofList (tree.tag id) ++ idPart ++ "> (" ++ displayId id ++ ")"

/-- An element as a compound: its tag, its `id` attribute if it has one, and its classes. -/
def describe (tree : Tree) (id : NodeId) : Text :=
  let idPart := match tree.idAttribute? id with
    | some value => '#' :: value
    | none => []
  tree.tag id ++ idPart ++ (tree.classes id).flatMap fun name => '.' :: name

end TreeQuery.Tree
