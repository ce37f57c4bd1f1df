import TreeQuery.Text.Words
import TreeQuery.Tree.Attributes

/-!
# Nodes

A tree has one document node; its other nodes are elements, and the texts, data and comments in
them. Tags and attribute names are kept in small ASCII letters.
-/

namespace TreeQuery

/-- The number of a node, in order of creation; the document has number zero. -/
abbrev NodeId := Nat

/-- A tag with attributes. -/
structure Element where
  tag : Text
  attributes : Attributes
deriving DecidableEq, Repr

namespace Element

/-- An element without attributes. -/
def ofTag (tag : Text) : Element := ⟨Text.lower tag, .empty⟩

/-- The element with one attribute set. -/
def setAttribute (element : Element) (name value : Text) : Element :=
  { element with attributes := element.attributes.insert (Text.lower name) value }

/-- An element with attributes, set in the given order. -/
def ofPairs (tag : Text) (pairs : List (Text × Text)) : Element :=
  pairs.foldl (fun element pair => element.setAttribute pair.1 pair.2) (ofTag tag)

/-- The value of an attribute, whose name may be written in any case. -/
def attribute? (element : Element) (name : Text) : Option Text :=
  element.attributes.get? (Text.lower name)

/-- The words of the `class` attribute. -/
def classes (element : Element) : List Text :=
  match element.attribute? "class".toList with
  | some value => Text.words value
  | none => []

/-- Whether the element is of a class, up to case. -/
def hasClass (element : Element) (name : Text) : Bool :=
  element.classes.any fun c => Text.sameIgnoringCase c name

end Element

/-- What a node is. -/
inductive NodeKind where
  | document
  | element (element : Element)
  /-- Text for readers. -/
  | text (content : Text)
  /-- Content that is not text for readers, such as a script. -/
  | data (content : Text)
  | comment (content : Text)
deriving DecidableEq, Repr

namespace NodeKind

/-- Whether a node of this kind may have children.  Only these take part in selection. -/
def isContainer : NodeKind → Bool
  | document | element _ => true
  | _ => false

/-- Whether this is an element; the document is none. -/
def isElement : NodeKind → Bool
  | element _ => true
  | _ => false

/-- The element, if it is one. -/
def element? : NodeKind → Option Element
  | element e => some e
  | _ => none

/-- The tag; the document has one of its own. -/
def tag? : NodeKind → Option Text
  | document => some "#root".toList
  | element e => some e.tag
  | _ => none

/-- The content of a text node. -/
def text? : NodeKind → Option Text
  | text content => some content
  | _ => none

end NodeKind

/-- A node and its links.  Its number is its place in the tree. -/
structure Node where
  kind : NodeKind
  parent : Option NodeId
  /-- The children in document order. -/
  children : List NodeId
deriving DecidableEq, Repr

end TreeQuery
