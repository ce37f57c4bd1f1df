import TreeQuery.Proofs.Tree.Content
import TreeQuery.Proofs.Tree.DocumentOrder
import TreeQuery.Proofs.Tree.Relatives

/-!
# Trees that share a subtree

Two well-formed trees may hold the same subtree and have nothing else in common.  Whatever is read
off the subtree, below its top and on the way up to it, is then the same in both.
-/

namespace TreeQuery.Tree

/-- Two trees agree on a subtree: its nodes are the same and have the same children. -/
def SameSubtree (left right : Tree) (top : NodeId) : Prop :=
  ∀ id, left.InSubtree top id →
    left.kind? id = right.kind? id ∧ left.children id = right.children id

variable {left right : Tree} {top id : NodeId}

/-- Two tests that agree on a list hold of some of it alike. -/
lemma any_congr_of_mem {α : Type} {p q : α → Bool} {l : List α} (h : ∀ a ∈ l, p a = q a) :
    l.any p = l.any q := by
  induction l with
  | nil => rfl
  | cons a l ih => rw [List.any_cons, List.any_cons, h a (.head _), ih fun b hb => h b (.tail _ hb)]

namespace SameSubtree

/-- What trees share they share below any node of it. -/
lemma narrow (same : SameSubtree left right top) (inside : left.InSubtree top id) :
    SameSubtree left right id :=
  fun below lower => same below (inside.trans lower)

/-- The top of a shared subtree is of the same kind in both trees. -/
lemma kind?_eq (same : SameSubtree left right id) : left.kind? id = right.kind? id :=
  (same id .refl).1

/-- The top of a shared subtree has the same children in both trees. -/
lemma children_eq (same : SameSubtree left right id) : left.children id = right.children id :=
  (same id .refl).2

/-- The subtree of a child is shared too. -/
lemma child (same : SameSubtree left right id) (wl : WellFormed left) {child : NodeId}
    (member : child ∈ left.children id) : SameSubtree left right child :=
  same.narrow (.single (wl.mem_children_iff.1 member))

/-- It is enough to compare a list of nodes that has the top and all children. -/
lemma of_list (wl : WellFormed left) (nodes : List NodeId) (first : top ∈ nodes)
    (closed : ∀ id ∈ nodes, left.kind? id = right.kind? id ∧ left.children id = right.children id ∧
      ∀ child ∈ left.children id, child ∈ nodes) : SameSubtree left right top := by
  intro id inside
  have member : id ∈ nodes := by
    induction inside with
    | refl => exact first
    | @tail parent child _ link ih =>
      exact (closed parent ih).2.2 child (wl.mem_children_iff.2 link)
  exact ⟨(closed id member).1, (closed id member).2.1⟩

/-- The top is an element in both trees or in none. -/
lemma isElement_eq (same : SameSubtree left right id) : left.isElement id = right.isElement id := by
  rw [isElement, isElement, same.kind?_eq]

/-- The top is the document in both trees or in none. -/
lemma isDocument_eq (same : SameSubtree left right id) :
    left.isDocument id = right.isDocument id := by
  rw [isDocument, isDocument, same.kind?_eq]

/-- The top has the same tag in both trees. -/
lemma tag_eq (same : SameSubtree left right id) : left.tag id = right.tag id := by
  rw [tag, tag, same.kind?_eq]

/-- The top is the same element in both trees. -/
lemma element?_eq (same : SameSubtree left right id) : left.element? id = right.element? id := by
  rw [element?, element?, same.kind?_eq]

/-- The top has the same attributes in both trees. -/
lemma attribute?_eq (same : SameSubtree left right id) (name : Text) :
    left.attribute? id name = right.attribute? id name := by
  rw [attribute?, attribute?, same.element?_eq]

/-! ### Below -/

/-- The same children of the top are elements in both trees. -/
lemma elementChildren_eq (same : SameSubtree left right id) (wl : WellFormed left) :
    left.elementChildren id = right.elementChildren id := by
  unfold elementChildren
  rw [← same.children_eq]
  exact List.filter_congr fun child member => (same.child wl member).isElement_eq

/-- The top has content in both trees or in none. -/
lemma hasContent_eq (same : SameSubtree left right id) (wl : WellFormed left) :
    left.hasContent id = right.hasContent id := by
  unfold hasContent
  rw [← same.children_eq]
  refine any_congr_of_mem fun child member => ?_
  rw [(same.child wl member).kind?_eq]

/-- The same nodes are below the top, in the same order. -/
lemma descendants_eq (same : SameSubtree left right id) (wl : WellFormed left)
    (wr : WellFormed right) : left.descendants id = right.descendants id := by
  induction id using wl.induction_children with
  | step id ih =>
    rw [wl.descendants_eq, wr.descendants_eq, ← same.children_eq]
    refine List.flatMap_congr fun child member => ?_
    rw [ih child member (same.child wl member)]

/-- The subtree of any node below the top is shared too. -/
lemma mem_descendants (same : SameSubtree left right id) (wl : WellFormed left) {below : NodeId}
    (member : below ∈ left.descendants id) : SameSubtree left right below :=
  same.narrow (wl.mem_descendants.1 member).to_reflTransGen

/-- The same elements are below the top, in the same order. -/
lemma elementsBelow_eq (same : SameSubtree left right id) (wl : WellFormed left)
    (wr : WellFormed right) : left.elementsBelow id = right.elementsBelow id := by
  rw [wl.elementsBelow_eq, wr.elementsBelow_eq, ← same.descendants_eq wl wr]
  exact List.filter_congr fun below member => (same.mem_descendants wl member).isElement_eq

/-- The walk from the top visits the same elements. -/
lemma elementsFrom_eq (same : SameSubtree left right id) (wl : WellFormed left)
    (wr : WellFormed right) : left.elementsFrom id = right.elementsFrom id := by
  have below := same.elementsBelow_eq wl wr
  rw [wl.elementsBelow_eq, wr.elementsBelow_eq] at below
  rw [wl.elementsFrom_eq, wr.elementsFrom_eq, documentOrder, documentOrder, below]

/-- The texts below the top are the same, and so is what is put together of them. -/
lemma rawText_eq (same : SameSubtree left right id) (wl : WellFormed left)
    (wr : WellFormed right) : left.rawText id = right.rawText id := by
  induction id using wl.induction_children with
  | step id ih =>
    have deeper : (left.children id).flatMap left.rawText =
        (left.children id).flatMap right.rawText :=
      List.flatMap_congr fun child member => ih child member (same.child wl member)
    rw [wl.rawText_eq, wr.rawText_eq, ← same.children_eq, ← same.kind?_eq, deeper]

/-- The top has the same text in both trees. -/
lemma text_eq (same : SameSubtree left right id) (wl : WellFormed left) (wr : WellFormed right) :
    left.text id = right.text id :=
  congrArg Text.collapse (same.rawText_eq wl wr)

/-- The top has the same text of its own in both trees. -/
lemma ownText_eq (same : SameSubtree left right id) (wl : WellFormed left) :
    left.ownText id = right.ownText id := by
  unfold ownText
  rw [← same.children_eq]
  congr 1
  refine List.flatMap_congr fun child member => ?_
  rw [(same.child wl member).kind?_eq]

/-- The data below the top are the same in both trees. -/
lemma data_eq (same : SameSubtree left right id) (wl : WellFormed left) (wr : WellFormed right) :
    left.data id = right.data id := by
  unfold data
  rw [← same.descendants_eq wl wr]
  refine List.flatMap_congr fun below member => ?_
  rw [(same.mem_descendants wl member).kind?_eq]

/-! ### Above and beside -/

/-- The parent of a node below the top is in the subtree too, and the same in both trees. -/
lemma parent?_eq (same : SameSubtree left right top) (wl : WellFormed left)
    (wr : WellFormed right) (below : left.Ancestor top id) :
    ∃ parent, left.InSubtree top parent ∧ left.ParentOf parent id ∧ right.ParentOf parent id := by
  obtain ⟨parent, inside, link⟩ := ancestor_iff_parent.1 below
  refine ⟨parent, inside, link, ?_⟩
  rw [← wr.mem_children_iff, ← (same.narrow inside).children_eq]
  exact wl.mem_children_iff.2 link

/-- Below the top a node has the same siblings in both trees. -/
lemma siblings_eq (same : SameSubtree left right top) (wl : WellFormed left)
    (wr : WellFormed right) (below : left.Ancestor top id) :
    left.siblings id = right.siblings id := by
  obtain ⟨parent, inside, link, link'⟩ := same.parent?_eq wl wr below
  unfold siblings
  rw [wl.parent?_eq_some_iff.2 link, wr.parent?_eq_some_iff.2 link']
  exact (same.narrow inside).elementChildren_eq wl

/-- Climbing from below the top takes the same way in both trees. -/
lemma ancestorsWithin_eq (same : SameSubtree left right top) (wl : WellFormed left)
    (wr : WellFormed right) (below : left.Ancestor top id) :
    left.ancestorsWithin top id = right.ancestorsWithin top id := by
  induction below with
  | @single id link =>
    obtain ⟨parent, -, link₁, link₂⟩ := same.parent?_eq wl wr (.single link)
    rw [link₁.unique link] at link₂
    rw [wl.ancestorsWithin_eq link, wr.ancestorsWithin_eq link₂, if_pos rfl, if_pos rfl]
  | @tail middle id below link ih =>
    obtain ⟨parent, -, link₁, link₂⟩ := same.parent?_eq wl wr (.tail below link)
    rw [link₁.unique link] at link₂
    rw [wl.ancestorsWithin_eq link, wr.ancestorsWithin_eq link₂, ih]

end SameSubtree
end TreeQuery.Tree
