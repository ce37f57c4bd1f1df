import Mathlib.Data.List.Perm.Subperm
import TreeQuery.Proofs.Tree.Ancestry

/-!
# Document order

In a well-formed tree the nodes below a node are listed by the recursion one expects
(`descendants_eq`), each of them once, and the elements among them, after their root, make up the
document order of a subtree.  Main statement: the walk with a stack of pending elements visits a
subtree in document order (`elementsFrom_eq`, `elementsBelow_eq`).
-/

namespace TreeQuery.Tree

variable {tree : Tree}

/-- The elements of a subtree: its root, then the elements below it. -/
def documentOrder (tree : Tree) (root : NodeId) : List NodeId :=
  root :: (tree.descendants root).filter tree.isElement

/-! ### All nodes -/

/-- Beyond the height of a node nothing is left to be listed. -/
lemma WellFormed.descendantsWithin_succ (wf : WellFormed tree) {steps : Nat} {id : NodeId}
    (enough : tree.height id ≤ steps) :
    tree.descendantsWithin (steps + 1) id = tree.descendantsWithin steps id := by
  induction steps generalizing id with
  | zero =>
    cases e : tree.children id with
    | nil => simp [descendantsWithin, e]
    | cons child more =>
      have link : tree.ParentOf id child := wf.mem_children_iff.1 (e ▸ .head more)
      exact absurd (wf.height_lt link) (Nat.not_lt.2 (enough.trans (Nat.zero_le _)))
  | succ steps ih =>
    unfold descendantsWithin
    refine List.flatMap_congr fun child h => ?_
    have lower := wf.height_lt (wf.mem_children_iff.1 h)
    rw [ih (Nat.le_of_lt_succ (lower.trans_le enough))]

/-- Below a node are its children, each followed by what is below it. -/
theorem WellFormed.descendants_eq (wf : WellFormed tree) (id : NodeId) :
    tree.descendants id = (tree.children id).flatMap fun child => child :: tree.descendants child :=
  (wf.descendantsWithin_succ (count_le_size _)).symm

/-- The nodes below a node are those that it is an ancestor of. -/
theorem WellFormed.mem_descendants (wf : WellFormed tree) {id below : NodeId} :
    below ∈ tree.descendants id ↔ tree.Ancestor id below := by
  induction id using wf.induction_children with
  | step id ih =>
    rw [wf.descendants_eq, List.mem_flatMap, ancestor_iff_child]
    refine exists_congr fun child => ?_
    rw [wf.mem_children_iff, List.mem_cons]
    refine and_congr_right fun link => ?_
    rw [ih child (wf.mem_children_iff.2 link), inSubtree_iff]

/-- No node is below another one twice. -/
theorem WellFormed.nodup_descendants (wf : WellFormed tree) (id : NodeId) :
    (tree.descendants id).Nodup := by
  induction id using wf.induction_children with
  | step id ih =>
    rw [wf.descendants_eq, List.nodup_flatMap]
    constructor
    · intro child h
      exact List.nodup_cons.2 ⟨fun h => wf.acyclic child (wf.mem_descendants.1 h), ih child h⟩
    -- Two children differ, and so their subtrees have nothing in common.
    · refine (wf.linked.nodup_children id).imp_of_mem fun {a b} ha hb differ below inA inB => ?_
      rw [List.mem_cons, wf.mem_descendants, ← inSubtree_iff] at inA inB
      exact differ
        (wf.eq_of_inSubtree (wf.mem_children_iff.1 ha) (wf.mem_children_iff.1 hb) inA inB)

/-- Below a node is the subtree of each of its children, and so that of everything further down. -/
theorem WellFormed.descendants_sublist (wf : WellFormed tree) {outer inner : NodeId}
    (below : tree.Ancestor outer inner) :
    (inner :: tree.descendants inner).Sublist (tree.descendants outer) := by
  have child_sublist {parent child : NodeId} (link : tree.ParentOf parent child) :
      (child :: tree.descendants child).Sublist (tree.descendants parent) := by
    rw [wf.descendants_eq parent]
    exact (List.infix_flatMap_of_mem (wf.mem_children_iff.2 link)
      fun child => child :: tree.descendants child).sublist
  induction below with
  | single link => exact child_sublist link
  | tail _ link ih => exact ((child_sublist link).trans (List.sublist_cons_self _ _)).trans ih

/-! ### Elements -/

/-- A child that is no element has nothing below it. -/
lemma WellFormed.descendants_of_not_isElement (wf : WellFormed tree) {parent child : NodeId}
    (link : tree.ParentOf parent child) (h : ¬ tree.isElement child) :
    tree.descendants child = [] := by
  rw [List.eq_nil_iff_forall_not_mem]
  intro below inside
  obtain ⟨next, link', -⟩ := ancestor_iff_child.1 (wf.mem_descendants.1 inside)
  exact h (wf.isElement_of_parentOf link link')

/-- What puts nothing together for some elements may leave them out first. -/
lemma filter_flatMap_eq_of_not {α β : Type} {p : α → Bool} {f g : α → List β} {l : List α}
    (kept : ∀ a ∈ l, p a → f a = g a) (dropped : ∀ a ∈ l, ¬ p a → f a = []) :
    l.flatMap f = (l.filter p).flatMap g := by
  induction l with
  | nil => rfl
  | cons a l ih =>
    rw [List.flatMap_cons, ih (fun b hb => kept b (.tail _ hb)) fun b hb => dropped b (.tail _ hb)]
    by_cases h : p a
    · rw [List.filter_cons_of_pos h, List.flatMap_cons, kept a (.head _) h]
    · rw [List.filter_cons_of_neg h, dropped a (.head _) h, List.nil_append]

/-- In document order a root is followed by the subtrees of its element children. -/
theorem WellFormed.documentOrder_eq (wf : WellFormed tree) (root : NodeId) :
    tree.documentOrder root = root :: (tree.elementChildren root).flatMap tree.documentOrder := by
  unfold documentOrder elementChildren
  rw [wf.descendants_eq, List.filter_flatMap]
  congr 1
  apply filter_flatMap_eq_of_not
  · intro child _ h
    exact List.filter_cons_of_pos h
  · intro child member h
    rw [List.filter_cons_of_neg h,
      wf.descendants_of_not_isElement (wf.mem_children_iff.1 member) h, List.filter_nil]

/-- The elements of a subtree are its root and the elements below that. -/
theorem WellFormed.mem_documentOrder (wf : WellFormed tree) {root id : NodeId} :
    id ∈ tree.documentOrder root ↔ id = root ∨ tree.Ancestor root id ∧ tree.isElement id := by
  rw [documentOrder, List.mem_cons, List.mem_filter, wf.mem_descendants]

/-- No element is in document order twice. -/
theorem WellFormed.nodup_documentOrder (wf : WellFormed tree) (root : NodeId) :
    (tree.documentOrder root).Nodup := by
  refine List.nodup_cons.2 ⟨fun h => ?_, (wf.nodup_descendants root).filter _⟩
  exact wf.acyclic root (wf.mem_descendants.1 (List.mem_filter.1 h).1)

/-- The document order of a subtree is that of a larger one, with everything else left out. -/
theorem WellFormed.documentOrder_sublist (wf : WellFormed tree) {outer inner : NodeId}
    (inside : tree.InSubtree outer inner) (like : tree.isElementLike inner) :
    (tree.documentOrder inner).Sublist (tree.documentOrder outer) := by
  rcases inSubtree_iff.1 inside with rfl | below
  · exact List.Sublist.refl _
  · obtain ⟨parent, -, link⟩ := ancestor_iff_parent.1 below
    have kept : (tree.documentOrder inner) =
        (inner :: tree.descendants inner).filter tree.isElement :=
      (List.filter_cons_of_pos (wf.isElement_of_isElementLike link like)).symm
    rw [kept]
    exact ((wf.descendants_sublist below).filter _).cons _

/-- There are no children under a number that is not in use. -/
lemma WellFormed.children_of_size_le (wf : WellFormed tree) {id : NodeId}
    (beyond : tree.size ≤ id) :
    tree.children id = [] := by
  rw [List.eq_nil_iff_forall_not_mem]
  intro child member
  have above := wf.parent_present (wf.mem_children_iff.1 member)
  exact Nat.not_lt.2 beyond above

/-- There are no more elements in a subtree than nodes in the tree. -/
lemma WellFormed.length_documentOrder (wf : WellFormed tree) (root : NodeId) :
    (tree.documentOrder root).length ≤ tree.size := by
  rcases Nat.lt_or_ge root tree.size with present | beyond
  · have inside : tree.documentOrder root ⊆ List.range tree.size := by
      intro id h
      rcases wf.mem_documentOrder.1 h with rfl | ⟨h, -⟩
      · exact List.mem_range.2 present
      · exact List.mem_range.2 h.present
    exact ((wf.nodup_documentOrder root).subperm inside).length_le.trans_eq List.length_range
  · rw [documentOrder, wf.descendants_eq, wf.children_of_size_le beyond]
    exact lt_size_of_kind? (wf.linked.document_iff.2 rfl)

/-! ### The walk -/

/-- The walk visits the subtrees of the pending elements, one after the other and each of them in
document order. -/
lemma WellFormed.visit_eq (wf : WellFormed tree) {steps : Nat} {pending : List NodeId}
    (enough : (pending.flatMap tree.documentOrder).length ≤ steps) :
    tree.visit steps pending = pending.flatMap tree.documentOrder := by
  induction steps generalizing pending with
  | zero =>
    rw [List.eq_nil_of_length_eq_zero (Nat.le_zero.1 enough)]
    cases pending <;> rfl
  | succ steps ih =>
    cases pending with
    | nil => rfl
    | cons id pending =>
      -- The visited element leaves the front of the stack and its element children take its place,
      -- which does not change what all pending subtrees come to.
      have unfolded : (id :: pending).flatMap tree.documentOrder =
          id :: (tree.elementChildren id ++ pending).flatMap tree.documentOrder := by
        rw [List.flatMap_cons, wf.documentOrder_eq, List.flatMap_append, List.cons_append]
      rw [unfolded, List.length_cons] at enough
      rw [unfolded, visit, ih (Nat.le_of_succ_le_succ enough)]

/-- A walk from a root visits its subtree in document order, given as many steps as the tree has
nodes. -/
theorem WellFormed.visit_root (wf : WellFormed tree) (root : NodeId) {steps : Nat}
    (enough : tree.size ≤ steps) : tree.visit steps [root] = tree.documentOrder root := by
  have single : [root].flatMap tree.documentOrder = tree.documentOrder root :=
    List.flatMap_singleton ..
  rw [wf.visit_eq (single ▸ (wf.length_documentOrder root).trans enough), single]

/-- A walk from the children of a node visits the elements below it in document order. -/
theorem WellFormed.visit_elementChildren (wf : WellFormed tree) (id : NodeId) {steps : Nat}
    (enough : tree.size ≤ steps) :
    tree.visit steps (tree.elementChildren id) = (tree.descendants id).filter tree.isElement := by
  have order := wf.documentOrder_eq id
  have bound := wf.length_documentOrder id
  rw [order, List.length_cons] at bound
  rw [documentOrder, List.cons.injEq] at order
  rw [wf.visit_eq ((Nat.le_of_succ_le bound).trans enough), order.2]

/-- The walk from the root is in document order. -/
theorem WellFormed.elementsFrom_eq (wf : WellFormed tree) (root : NodeId) :
    tree.elementsFrom root = tree.documentOrder root :=
  wf.visit_root root (Nat.le_refl _)

/-- The walk from the children is the one over all nodes below, with everything but elements left
out. -/
theorem WellFormed.elementsBelow_eq (wf : WellFormed tree) (id : NodeId) :
    tree.elementsBelow id = (tree.descendants id).filter tree.isElement :=
  wf.visit_elementChildren id (Nat.le_refl _)

end TreeQuery.Tree
