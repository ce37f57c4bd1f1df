import TreeQuery.Document.Spec
import TreeQuery.Tree.Basic

/-!
# Loading documents

Described nodes become nodes of a tree, one after the other in document order: an element, then its
text, then its data, then its children.  Descriptions that say nothing definite are skipped with a
warning, and so is everything in them.
-/

namespace TreeQuery

/-- What is skipped while a document is loaded. -/
inductive Warning where
  /-- A node without a tag has children or attributes. -/
  | untagged
  /-- A node has nothing at all. -/
  | emptyNode
  /-- The tag of a node is blank. -/
  | emptyTag
deriving DecidableEq, Repr

/-- The displayed warning. -/
def Warning.message : Warning → String
  | untagged => "Skipping node with children or attributes but no tag"
  | emptyNode => "Skipping empty node"
  | emptyTag => "Skipping element with an empty tag"

/-- A document that is being loaded: its tree, and the warnings so far in order. -/
structure Loading where
  tree : Tree
  warnings : List Warning

namespace Loading

/-- A document without nodes. -/
def start : Loading := ⟨.new, []⟩

/-- The loading with one more warning. -/
def warn (loading : Loading) (warning : Warning) : Loading :=
  { loading with warnings := loading.warnings ++ [warning] }

/-- The loading after a change to its tree that makes a new node, and the number of that node. -/
def add (loading : Loading) (change : Tree → Except TreeError NodeId × Tree) :
    Except TreeError (NodeId × Loading) :=
  match change loading.tree with
  | (.error e, _) => .error e
  | (.ok id, tree) => .ok (id, { loading with tree := tree })

/-- The loading with a new text node below `parent`, if there is text. -/
def addText (loading : Loading) (parent : NodeId) : Option Text → Except TreeError Loading
  | none => .ok loading
  | some text => (loading.add (·.appendText parent text)).map (·.2)

/-- The loading with a new data node below `parent`, if there is data. -/
def addData (loading : Loading) (parent : NodeId) : Option Text → Except TreeError Loading
  | none => .ok loading
  | some data => (loading.add (·.appendData parent data)).map (·.2)

/-- The loading of a node without a tag, which is a leaf: its text, or else its data. -/
def loadUntagged (loading : Loading) (parent : NodeId) (attributes : Attributes)
    (text data : Option Text) (children : List NodeSpec) : Except TreeError Loading :=
  if !children.isEmpty || !attributes.entries.isEmpty then .ok (loading.warn .untagged)
  else
    match text, data with
    | some text, _ => loading.addText parent (some text)
    | none, some data => loading.addData parent (some data)
    | none, none => .ok (loading.warn .emptyNode)

mutual

/-- Loads a described node and everything in it below `parent`. -/
def loadNode (loading : Loading) (parent : NodeId) : NodeSpec → Except TreeError Loading
  | ⟨none, attributes, text, data, children⟩ =>
    loading.loadUntagged parent attributes text data children
  | ⟨some tag, attributes, text, data, children⟩ =>
    if (Text.trim tag).isEmpty then .ok (loading.warn .emptyTag)
    else do
      let (id, loading) ←
        loading.add (·.appendElement parent (Text.trim tag) attributes.entries)
      let loading ← loading.addText id text
      let loading ← loading.addData id data
      loadNodes loading id children

/-- Loads described nodes one after the other. -/
def loadNodes (loading : Loading) (parent : NodeId) : List NodeSpec → Except TreeError Loading
  | [] => .ok loading
  | spec :: specs => do
    let loading ← loadNode loading parent spec
    loadNodes loading parent specs

end

end Loading

/-- The tree of a document, and the warnings given on the way. -/
def loadTree (specs : List NodeSpec) : Except TreeError Loading :=
  Loading.start.loadNodes Tree.documentId specs

end TreeQuery
