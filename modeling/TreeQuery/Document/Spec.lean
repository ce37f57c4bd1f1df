import TreeQuery.Tree.Attributes

/-!
# Described nodes

A document is described by a list of nodes.  A node with a tag describes an element, with its text
and its data in front of its children; a node without a tag describes a text or some data.
-/

namespace TreeQuery

/-- The description of a node. -/
structure NodeSpec where
  tag : Option Text
  attributes : Attributes
  text : Option Text
  data : Option Text
  children : List NodeSpec

end TreeQuery
