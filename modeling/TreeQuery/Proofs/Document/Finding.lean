import TreeQuery.Pattern.Basic
import TreeQuery.Proofs.Document.Loading
import TreeQuery.Proofs.Selector.Names
import TreeQuery.Proofs.Tree.Invariant
import TreeQuery.Tree.Display

/-!
# Finding what is described

The description of an element, its tag with its id and its classes, is a selector if all of these
are names.  In the document it finds the element, and with it every element of that tag that has the
id and the classes too.  Main statement: `select_describe`.
-/

namespace TreeQuery
open TreeQuery.Tree TreeQuery.Selector

/-! ### Elements -/

namespace Element

/-- The tag, the id if there is one, and the classes are names. -/
structure Named (element : Element) : Prop where
  tag : IsName element.tag
  id : ∀ value ∈ element.attribute? "id".toList, IsName value
  classes : ∀ name ∈ element.classes, IsName name

/-- An element with the tag of another one, with its id if it has one, and with all of its classes,
in any case. -/
structure Covers (other element : Element) : Prop where
  tag : other.tag = element.tag
  id : ∀ value ∈ element.attribute? "id".toList, other.attribute? "id".toList = some value
  classes : ∀ name ∈ element.classes, ∃ c ∈ other.classes, Text.lower c = Text.lower name

variable {element other : Element}

instance : Decidable element.Named :=
  decidable_of_iff (IsName element.tag ∧ (∀ value ∈ element.attribute? "id".toList, IsName value) ∧
      ∀ name ∈ element.classes, IsName name)
    ⟨fun h => ⟨h.1, h.2.1, h.2.2⟩, fun h => ⟨h.tag, h.id, h.classes⟩⟩

/-- An element covers another one with its tag and its id, and has all of its classes in any case.
-/
lemma covers_iff : other.Covers element ↔ other.tag = element.tag ∧
    (∀ value ∈ element.attribute? "id".toList, other.attribute? "id".toList = some value) ∧
    ∀ name ∈ element.classes, ∃ c ∈ other.classes, Text.lower c = Text.lower name :=
  ⟨fun h => ⟨h.tag, h.id, h.classes⟩, fun h => ⟨h.1, h.2.1, h.2.2⟩⟩

instance : Decidable (other.Covers element) := decidable_of_iff' _ covers_iff

/-- Every element covers itself. -/
lemma Covers.refl (element : Element) : element.Covers element :=
  ⟨rfl, fun _ given => given, fun name member => ⟨name, member, rfl⟩⟩

/-- Classes are compared in small letters. -/
lemma hasClass_iff {name : Text} :
    element.hasClass name ↔ ∃ c ∈ element.classes, Text.lower c = Text.lower name := by
  simp [hasClass, Text.sameIgnoringCase_iff]

end Element

/-! ### Trees -/

namespace Tree

variable {tree : Tree} {id : NodeId} {element : Element}

/-- The tag of a node is the tag of its element. -/
lemma tag_of_element? (found : tree.element? id = some element) : tree.tag id = element.tag := by
  rw [tag, element?_eq_some_iff.1 found]
  rfl

/-- The id attribute of a node is that of its element. -/
lemma idAttribute?_of_element? (found : tree.element? id = some element) :
    tree.idAttribute? id = element.attribute? "id".toList := by
  rw [idAttribute?, attribute?, found]
  rfl

/-- The classes of a node are those of its element. -/
lemma classes_of_element? (found : tree.element? id = some element) :
    tree.classes id = element.classes := by
  rw [classes, found]
  rfl

/-- A node has the classes that its element has. -/
lemma hasClass_of_element? (found : tree.element? id = some element) (name : Text) :
    tree.hasClass id name = element.hasClass name := by
  rw [hasClass, found]
  rfl

/-- An element is described by its tag, its id behind a hash and each of its classes behind a dot.
-/
lemma describe_of_element? (found : tree.element? id = some element) :
    tree.describe id = element.tag ++ (element.attribute? "id".toList).elim [] ('#' :: ·) ++
      element.classes.flatMap fun name => '.' :: name := by
  unfold describe
  rw [tag_of_element? found, idAttribute?_of_element? found, classes_of_element? found]
  cases element.attribute? "id".toList <;> rfl

/-- Node 0 of a well-formed tree is a document. -/
lemma WellFormed.kind?_document (wf : WellFormed tree) : tree.kind? documentId = some .document :=
  wf.linked.document_iff.2 rfl

end Tree

/-! ### Descriptions -/

section

variable [PatternEngine] {tree : Tree} {root id : NodeId} {element other : Element}

/-- What the description of an element asks for. -/
def Element.description (element : Element) : Condition :=
  .allOf (.tag element.tag ::
    ((element.attribute? "id".toList).toList.map .id ++ element.classes.map .hasClass))

/-- What all of some conditions ask for holds where each of them does. -/
lemma Selector.Condition.holds_allOf (conditions : List Condition) :
    (Condition.allOf conditions).holds tree root id =
      conditions.all (·.holds tree root id) := by
  match conditions with
  | [] => rfl
  | [_] => simp [Condition.allOf]
  | _ :: _ :: _ => simp only [Condition.allOf, Condition.holds, Condition.holdsAll_eq_all]

/-- A description parses back to what it describes. -/
lemma parse_describe (found : tree.element? id = some element) (named : element.Named)
    (small : element.Small) : parse (tree.describe id) = .ok element.description := by
  rw [describe_of_element? found, parse_names named.tag named.id named.classes,
    named.tag.normalizeTag_eq small.tag]
  rfl

/-- An element meets the description of another one if it has all of it. -/
lemma holds_description_iff (found : tree.element? id = some other) (small : other.Small)
    (small' : element.Small) :
    element.description.holds tree root id ↔ other.Covers element := by
  have tag : Text.sameIgnoringCase (tree.tag id) element.tag ↔ other.tag = element.tag := by
    rw [tag_of_element? found, Text.sameIgnoringCase_iff, Text.lower_of_small small.tag,
      Text.lower_of_small small'.tag]
  rw [Element.covers_iff]
  simp [Element.description, Condition.holds_allOf, Condition.holds, tag, Element.hasClass_iff,
    idAttribute?_of_element? found, hasClass_of_element? found]

/-- The document has a tag that is no name, so it meets no description. -/
lemma not_holds_description_document (document : tree.kind? id = some .document)
    (named : element.Named) : ¬ element.description.holds tree root id := by
  intro holds
  have tag : Text.sameIgnoringCase (tree.tag id) element.tag := by
    rw [Element.description, Condition.holds_allOf] at holds
    exact List.all_eq_true.1 holds _ (.head _)
  -- The tag of the document starts with a mark, and letter case does not make marks of letters.
  have same : Text.lower "#root".toList = Text.lower element.tag := by
    rw [Text.sameIgnoringCase_iff, Tree.tag, document] at tag
    exact tag
  have mark : '#' ∈ Text.lower element.tag := same ▸ by decide
  obtain ⟨c, member, e⟩ := List.mem_map.1 mark
  cases (Text.toLower_eq_iff (by decide)).1 e
  exact named.tag.not_mem (by decide +kernel) member

/-! ### Searches -/

variable {outlines : List Outline} {found : NodeId}

/-- In a document a description finds the elements that have all of it. -/
lemma mem_select_description_iff (wf : WellFormed tree) (numbered : Numbered tree outlines)
    (here : tree.element? id = some element) (named : element.Named) :
    found ∈ select tree element.description documentId ↔
      ∃ other, tree.element? found = some other ∧ other.Covers element := by
  have small {id : NodeId} {element : Element} (is : tree.element? id = some element) :
      element.Small := wf.built.smallLetters (element?_eq_some_iff.1 is)
  rw [mem_select wf, wf.mem_documentOrder]
  constructor
  · rintro ⟨rfl | ⟨-, isElement⟩, holds⟩
    · exact absurd holds (not_holds_description_document wf.kind?_document named)
    · obtain ⟨other, is⟩ := isElement_iff.1 isElement
      exact ⟨other, is, (holds_description_iff is (small is) (small here)).1 holds⟩
  -- An element that covers the other one is not the document, and all other nodes are below that.
  · rintro ⟨other, is, covers⟩
    have kind := element?_eq_some_iff.1 is
    have other_id : found ≠ documentId := by
      rintro rfl
      cases wf.kind?_document.symm.trans kind
    have below := numbered.mem_descendants wf (lt_size_of_kind? kind) other_id
    refine ⟨.inr ⟨wf.mem_descendants.1 below, isElement_iff.2 ⟨other, is⟩⟩, ?_⟩
    exact (holds_description_iff is (small is) (small here)).2 covers

/-- A description finds elements of the document, each once and in document order. -/
lemma select_description_sublist (wf : WellFormed tree) (named : element.Named) :
    (select tree element.description documentId).Sublist (tree.descendants documentId) := by
  have kept : (tree.documentOrder documentId).filter
      (element.description.holds tree documentId) = _ :=
    List.filter_cons_of_neg (not_holds_description_document wf.kind?_document named)
  rw [select_eq_filter_documentOrder wf, kept]
  exact List.filter_sublist.trans List.filter_sublist

/-- The description of an element of a loaded document is a selector, if its tag, its id and its
classes are names.  In the document, and in its order, that selector finds exactly the elements of
the same tag that have the same id, if the element has one, and all of its classes, in any case.
The element itself is among them. -/
theorem select_describe (specs : List NodeSpec) :
    ∃ loading, loadTree specs = .ok loading ∧
      ∀ id element, loading.tree.element? id = some element → element.Named →
        ∃ condition, parse (loading.tree.describe id) = .ok condition ∧
          (∀ found, found ∈ select loading.tree condition documentId ↔
            ∃ other, loading.tree.element? found = some other ∧ other.Covers element) ∧
          (select loading.tree condition documentId).Sublist
            (loading.tree.descendants documentId) ∧
          id ∈ select loading.tree condition documentId := by
  obtain ⟨loading, loaded, wf, numbered, -⟩ := loadTree_numbered specs
  refine ⟨loading, loaded, fun id element here named => ?_⟩
  have small := wf.built.smallLetters (element?_eq_some_iff.1 here)
  refine ⟨_, parse_describe here named small, ?_, select_description_sublist wf named, ?_⟩
  · intro found
    exact mem_select_description_iff wf numbered here named
  · exact (mem_select_description_iff wf numbered here named).2 ⟨element, here, .refl element⟩

end

attribute [local instance] Pattern.engine

/-- Three boxes inside one another, each inner one of more classes, and only the outer two with an
id. -/
def boxes : List NodeSpec :=
  [⟨some "DIV".toList, (Attributes.empty.insert "Class".toList "Box\tx".toList).insert "ID".toList
      "é_1".toList, none, none,
    [⟨some "div".toList, (Attributes.empty.insert "class".toList "X y box".toList).insert "id".toList
        "é_1".toList, some "a".toList, none,
      [⟨some "div".toList, Attributes.empty.insert "class".toList "x y z box".toList, none, none,
        []⟩]⟩]⟩]

/-- The description of the outer box finds the box in it too, but not the innermost one. -/
theorem select_describe_boxes :
    ∃ loading element condition, loadTree boxes = .ok loading ∧
      loading.tree.element? 1 = some element ∧ element.Named ∧
      loading.tree.describe 1 = "div#é_1.Box.x".toList ∧
      parse "div#é_1.Box.x".toList = .ok condition ∧
      1 ∈ select loading.tree condition documentId ∧ 2 ∈ select loading.tree condition documentId ∧
      4 ∉ select loading.tree condition documentId := by
  obtain ⟨loading, loaded, outer, middle, inner, described⟩ : ∃ loading,
      loadTree boxes = .ok loading ∧
      loading.tree.element? 1 = some (.ofPairs "div".toList
        [("class".toList, "Box\tx".toList), ("id".toList, "é_1".toList)]) ∧
      loading.tree.element? 2 = some (.ofPairs "div".toList
        [("class".toList, "X y box".toList), ("id".toList, "é_1".toList)]) ∧
      loading.tree.element? 4 = some (.ofPairs "div".toList
        [("class".toList, "x y z box".toList)]) ∧
      loading.tree.describe 1 = "div#é_1.Box.x".toList :=
    ⟨_, rfl, by decide, by decide, by decide, by decide⟩
  obtain ⟨_, again, finds⟩ := select_describe boxes
  cases loaded.symm.trans again
  have named : (Element.ofPairs "div".toList
      [("class".toList, "Box\tx".toList), ("id".toList, "é_1".toList)]).Named := by decide +kernel
  obtain ⟨condition, parsed, mem, -, self⟩ := finds 1 _ outer named
  rw [described] at parsed
  refine ⟨loading, _, condition, loaded, outer, named, described, parsed, self,
    (mem 2).2 ⟨_, middle, by decide⟩, fun member => ?_⟩
  obtain ⟨other, is, covers⟩ := (mem 4).1 member
  cases inner.symm.trans is
  exact absurd covers (by decide)

end TreeQuery
