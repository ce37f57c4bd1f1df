import TreeQuery.Document.Load
import TreeQuery.Proofs.Document.Description
import TreeQuery.Proofs.Selector.Search
import TreeQuery.Proofs.Tree.Growth

/-!
# What loading builds

Loading a described node adds its outline below the parent, or a warning if the node is dropped
(`Loading.Adds`).  The numbers come in document order, so the finished tree can be read back whole.
Main statement: `loadTree_outline`.
-/

namespace TreeQuery
open TreeQuery.Tree

namespace Loading

/-- A loading adds outlines below `parent`, and some warnings. -/
structure Adds (parent : NodeId) (before : Loading) (outlines : List Outline) (skipped : Nat)
    (after : Loading) : Prop where
  grows : Grows parent before.tree outlines after.tree
  warnings : after.warnings.length = before.warnings.length + skipped

variable {loading before after : Loading} {parent : NodeId}

/-- Where nothing is loaded nothing is added. -/
lemma Adds.nothing : Adds parent loading [] 0 loading := ⟨.nil, rfl⟩

/-- A warning adds no node. -/
lemma Adds.warn (warning : Warning) : Adds parent loading [] 1 (loading.warn warning) where
  grows := .nil
  warnings := List.length_append

/-- What is loaded one after the other is added one after the other. -/
lemma Adds.append {middle : Loading} {left right : List Outline} {m n : Nat}
    (first : Adds parent before left m middle) (second : Adds parent middle right n after) :
    Adds parent before (left ++ right) (m + n) after where
  grows := first.grows.append second.grows
  warnings := by rw [second.warnings, first.warnings, Nat.add_assoc]

/-- The loading with a new node below `parent`. -/
def withChild (loading : Loading) (parent : NodeId) (kind : NodeKind) : Loading :=
  { loading with tree := loading.tree.withChild parent kind }

/-- A node is added under an element or the document without an error, as the last child. -/
lemma add_eq (container : loading.tree.isElementLike parent) (kind : NodeKind) :
    loading.add (·.appendNew parent kind) =
      .ok (loading.tree.size, loading.withChild parent kind) := by
  simp only [add, appendNew_eq container]
  rfl

/-- A new element may have children. -/
lemma isElementLike_withChild (container : loading.tree.isElementLike parent) (element : Element) :
    (loading.withChild parent (.element element)).tree.isElementLike loading.tree.size := by
  obtain ⟨_, found, -⟩ := isElementLike_iff.1 container
  apply isElementLike_iff.2
  exact ⟨_, kind?_of_get? (get?_withChild_size (lt_size_of_kind? found) _), rfl⟩

/-- A node and what is added below it make one outline. -/
lemma Adds.single {kind : NodeKind} {children : List Outline} {skipped : Nat}
    (container : before.tree.isElementLike parent) (fresh : Fresh kind)
    (below : Adds before.tree.size (before.withChild parent kind) children skipped after) :
    Adds parent before [⟨kind, children⟩] skipped after where
  grows := .single container fresh below.grows
  warnings := below.warnings

/-- Adding a single node adds the outline that is a leaf. -/
lemma add_adds {kind : NodeKind} (container : loading.tree.isElementLike parent)
    (fresh : Fresh kind) :
    ∃ after, (loading.add (·.appendNew parent kind)).map (·.2) = .ok after ∧
      Adds parent loading [.leaf kind] 0 after := by
  rw [add_eq container]
  exact ⟨_, rfl, .single container fresh .nothing⟩

/-- Loading a text adds it as a leaf, if there is one. -/
lemma addText_adds (container : loading.tree.isElementLike parent) (text : Option Text) :
    ∃ after, loading.addText parent text = .ok after ∧
      Adds parent loading (text.map fun content => .leaf (.text content)).toList 0 after := by
  cases text with
  | none => exact ⟨loading, rfl, .nothing⟩
  | some content => exact add_adds container (.text content)

/-- Loading data adds them as a leaf, if there are any. -/
lemma addData_adds (container : loading.tree.isElementLike parent) (data : Option Text) :
    ∃ after, loading.addData parent data = .ok after ∧
      Adds parent loading (data.map fun content => .leaf (.data content)).toList 0 after := by
  cases data with
  | none => exact ⟨loading, rfl, .nothing⟩
  | some content => exact add_adds container (.data content)

/-- A dropped node adds nothing but a warning. -/
lemma warn_adds {spec : NodeSpec} (dropped : spec.outline? = none) (warning : Warning) :
    Adds parent loading spec.outline?.toList (spec.reached.countP NodeSpec.isDropped)
      (loading.warn warning) := by
  rw [NodeSpec.reached_of_dropped dropped, List.countP_singleton, NodeSpec.isDropped, dropped]
  exact .warn warning

/-- A node that is not dropped adds its outline, if what is in it adds the warnings. -/
lemma adds_of_outline {spec : NodeSpec} {outline : Outline} (kept : spec.outline? = some outline)
    (adds : Adds parent before [outline]
      ((spec.children.flatMap NodeSpec.reached).countP NodeSpec.isDropped) after) :
    Adds parent before spec.outline?.toList (spec.reached.countP NodeSpec.isDropped) after := by
  rw [NodeSpec.reached_of_kept kept, List.countP_cons, NodeSpec.isDropped, kept]
  exact adds

/-- A node without a tag adds its outline and no more, with a warning where it is dropped. -/
lemma loadUntagged_adds (container : loading.tree.isElementLike parent) (attributes : Attributes)
    (text data : Option Text) (children : List NodeSpec) :
    ∃ after, loading.loadUntagged parent attributes text data children = .ok after ∧
      Adds parent loading (NodeSpec.mk none attributes text data children).outline?.toList
        ((NodeSpec.mk none attributes text data children).reached.countP NodeSpec.isDropped)
        after := by
  unfold loadUntagged
  by_cases leaf : children = [] ∧ attributes.entries = []
  · obtain ⟨rfl, none⟩ := leaf
    have outline := NodeSpec.outline?_leaf none text data
    rw [none]
    cases text with
    | some content =>
      obtain ⟨after, after_eq, adds⟩ := addText_adds container (some content)
      exact ⟨after, after_eq, adds_of_outline outline adds⟩
    | none =>
      cases data with
      | some content =>
        obtain ⟨after, after_eq, adds⟩ := addData_adds container (some content)
        exact ⟨after, after_eq, adds_of_outline outline adds⟩
      | none => exact ⟨_, rfl, warn_adds outline .emptyNode⟩
  · refine ⟨loading.warn .untagged, ?_, warn_adds ?_ .untagged⟩
    · rw [if_pos]
      rcases not_and_or.1 leaf with some | some <;> simp [some]
    · rw [NodeSpec.outline?, if_neg leaf]

mutual

/-- Loading a described node adds its outline, and a warning for each node that is dropped. -/
theorem loadNode_adds {loading : Loading} {parent : NodeId}
    (container : loading.tree.isElementLike parent) :
    ∀ spec : NodeSpec, ∃ after, loading.loadNode parent spec = .ok after ∧
      Adds parent loading spec.outline?.toList (spec.reached.countP NodeSpec.isDropped) after
  | ⟨none, attributes, text, data, children⟩ =>
    loadUntagged_adds container attributes text data children
  | ⟨some tag, attributes, text, data, children⟩ => by
    rw [loadNode]
    by_cases blank : Text.trim tag = []
    · refine ⟨loading.warn .emptyTag, ?_, warn_adds ?_ .emptyTag⟩
      · rw [if_pos (by rw [blank]; rfl)]
      · rw [NodeSpec.outline?, if_pos blank]
    · have fresh := Fresh.element (Text.trim tag) attributes.entries
      have element_eq := add_eq container (.element (.ofPairs (Text.trim tag) attributes.entries))
      -- The new element is a container and stays one while its text, data and children are added.
      have open₁ := isElementLike_withChild container (.ofPairs (Text.trim tag) attributes.entries)
      obtain ⟨withText, text_eq, texts⟩ := addText_adds open₁ text
      have open₂ := texts.grows.isElementLike open₁
      obtain ⟨withData, data_eq, datas⟩ := addData_adds open₂ data
      have open₃ := datas.grows.isElementLike open₂
      obtain ⟨after, after_eq, others⟩ := loadNodes_adds open₃ children
      have inside := (texts.append datas).append others
      rw [Nat.zero_add] at inside
      refine ⟨after, ?_, adds_of_outline ?_ (.single container fresh inside)⟩
      · rw [if_neg (by simpa using blank)]
        simp only [appendElement, element_eq, text_eq, data_eq, after_eq, bind, Except.bind]
      · rw [NodeSpec.outline?_element blank, Element.ofPairs_entries]

/-- Nodes add their outlines in order, with one warning for each dropped node that is reached. -/
theorem loadNodes_adds {loading : Loading} {parent : NodeId}
    (container : loading.tree.isElementLike parent) :
    ∀ specs : List NodeSpec, ∃ after, loading.loadNodes parent specs = .ok after ∧
      Adds parent loading (specs.filterMap NodeSpec.outline?)
        ((specs.flatMap NodeSpec.reached).countP NodeSpec.isDropped) after
  | [] => ⟨loading, rfl, .nothing⟩
  | spec :: specs => by
    obtain ⟨middle, middle_eq, first⟩ := loadNode_adds container spec
    obtain ⟨after, after_eq, others⟩ :=
      loadNodes_adds (first.grows.isElementLike container) specs
    refine ⟨after, ?_, ?_⟩
    · rw [loadNodes, middle_eq]
      exact after_eq
    · rw [List.filterMap_eq_flatMap_toList, List.flatMap_cons, List.flatMap_cons,
        List.countP_append, ← List.filterMap_eq_flatMap_toList]
      exact first.append others

end

end Loading

/-- Loading never fails, and the nodes of the finished tree are numbered in document order. -/
theorem loadTree_numbered (specs : List NodeSpec) :
    ∃ loading, loadTree specs = .ok loading ∧ WellFormed loading.tree ∧
      Numbered loading.tree (specs.filterMap NodeSpec.outline?) ∧
      loading.warnings.length = (specs.flatMap NodeSpec.reached).countP NodeSpec.isDropped := by
  have container : Loading.start.tree.isElementLike documentId := rfl
  obtain ⟨loading, loaded, adds⟩ := Loading.loadNodes_adds container specs
  have numbered := adds.grows.numbered
  refine ⟨loading, loaded, numbered.wellFormed (adds.grows.built .new), numbered, ?_⟩
  rw [adds.warnings]
  exact Nat.zero_add _

/-- The tree of a document, read back from the document down, is what the descriptions say, and
there is one warning for each dropped node that is not in a dropped one itself.  What is read back
of a node is its kind and what is read back of its children, however deep these go; under each name
an element has the last of the described values whose name is the same up to case. -/
theorem loadTree_outline (specs : List NodeSpec) :
    ∃ loading, loadTree specs = .ok loading ∧
      (∀ id, loading.tree.outline id = (loading.tree.kind? id).map fun kind =>
        ⟨kind, (loading.tree.children id).filterMap loading.tree.outline⟩) ∧
      loading.tree.outline documentId =
        some ⟨.document, specs.filterMap NodeSpec.outline?⟩ ∧
      (∀ (attributes : Attributes) (name : Text), attributes.lowered.get? name =
        (attributes.entries.reverse.find? fun entry => Text.lower entry.1 == name).map (·.2)) ∧
      loading.warnings.length = (specs.flatMap NodeSpec.reached).countP NodeSpec.isDropped := by
  obtain ⟨loading, loaded, wf, numbered, warnings⟩ := loadTree_numbered specs
  exact ⟨loading, loaded, wf.outline_eq, numbered.outline_eq wf, Attributes.get?_lowered, warnings⟩

/-- A loaded tree is well-formed and has no loose nodes.  Its nodes are numbered in document order:
so the parent of a node has a smaller number, and whatever a search finds, from any root, it finds
in rising order. -/
theorem loadTree_documentOrder [PatternEngine] (specs : List NodeSpec) :
    ∃ loading, loadTree specs = .ok loading ∧
      WellFormed loading.tree ∧
      (∀ id < loading.tree.size, id ≠ documentId → ∃ parent, loading.tree.ParentOf parent id) ∧
      loading.tree.descendants documentId = List.range' 1 (loading.tree.size - 1) ∧
      (∀ parent child, loading.tree.ParentOf parent child → parent < child) ∧
      ∀ condition root, (Selector.select loading.tree condition root).Pairwise (· < ·) := by
  obtain ⟨loading, loaded, wf, numbered, -⟩ := loadTree_numbered specs
  refine ⟨loading, loaded, wf, ?_, numbered.descendants_eq wf, ?_, ?_⟩
  · intro id present other
    obtain ⟨parent, -, link⟩ := numbered.exists_parent present other
    exact ⟨parent, link⟩
  · intro parent child link
    exact numbered.parent_lt link
  · intro condition root
    rw [Selector.select_eq_filter_documentOrder wf]
    exact (numbered.pairwise_documentOrder wf root).filter _

end TreeQuery
