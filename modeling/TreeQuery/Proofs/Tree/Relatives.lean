import TreeQuery.Proofs.Tree.Ancestry

/-!
# Relatives of an element

What one finds above an element and beside it.  Climbing to the root of a search meets the ancestors
up to that root and nothing else (`mem_ancestorsWithin`); an element that stands in a list of
element children has those before it as its previous siblings (`previousSiblings_eq`).
-/

namespace TreeQuery.Tree

variable {tree : Tree}

/-! ### Above -/

/-- Beyond the depth of a node there is nothing left to climb to. -/
lemma WellFormed.climb_succ (wf : WellFormed tree) {root : NodeId} {steps : Nat} {id : NodeId}
    (enough : tree.depth id ≤ steps) :
    tree.climb root (steps + 1) id = tree.climb root steps id := by
  induction steps generalizing id with
  | zero =>
    unfold climb
    cases e : tree.parent? id with
    | none => rfl
    | some parent =>
      have link := wf.parent?_eq_some_iff.1 e
      -- A node of depth zero has no parent.
      exact absurd (wf.depth_lt link (wf.parent_present link))
        (Nat.not_lt.2 (enough.trans (Nat.zero_le _)))
  | succ steps ih =>
    unfold climb
    cases e : tree.parent? id with
    | none => rfl
    | some parent =>
      have link := wf.parent?_eq_some_iff.1 e
      have higher := wf.depth_lt link (wf.parent_present link)
      simp only
      rw [ih (Nat.le_of_lt_succ (higher.trans_le enough))]

/-- A climb comes to the parent, and goes on from there unless that is the root. -/
theorem WellFormed.ancestorsWithin_eq (wf : WellFormed tree) {root parent id : NodeId}
    (link : tree.ParentOf parent id) :
    tree.ancestorsWithin root id =
      parent :: if parent = root then [] else tree.ancestorsWithin root parent := by
  unfold ancestorsWithin
  rw [← wf.climb_succ (count_le_size _), climb, wf.parent?_eq_some_iff.2 link]

/-- The ancestors within a subtree are those that are not above its root. -/
theorem WellFormed.mem_ancestorsWithin (wf : WellFormed tree) {root id above : NodeId}
    (inside : tree.Ancestor root id) :
    above ∈ tree.ancestorsWithin root id ↔ tree.Ancestor above id ∧ tree.InSubtree root above := by
  induction inside with
  | @single id link =>
    rw [wf.ancestorsWithin_eq link, if_pos rfl, List.mem_singleton]
    constructor
    · rintro rfl
      exact ⟨.single link, .refl⟩
    · intro h
      obtain ⟨higher, lower⟩ := h
      obtain ⟨parent, higher, link'⟩ := ancestor_iff_parent.1 higher
      rw [link'.unique link] at higher
      rcases inSubtree_iff.1 higher with e | higher
      · exact e.symm
      -- Above the root nothing is in its subtree.
      · exact absurd (higher.trans_left lower) (wf.acyclic above)
  | @tail parent id inside link ih =>
    have differ : parent ≠ root := fun e => wf.acyclic root (e ▸ inside)
    rw [wf.ancestorsWithin_eq link, if_neg differ, List.mem_cons, ih]
    constructor
    · intro h
      rcases h with rfl | ⟨higher, lower⟩
      · exact ⟨.single link, inside.to_reflTransGen⟩
      · exact ⟨higher.tail link, lower⟩
    · intro h
      obtain ⟨higher, lower⟩ := h
      obtain ⟨parent', higher, link'⟩ := ancestor_iff_parent.1 higher
      rw [link'.unique link] at higher
      rcases inSubtree_iff.1 higher with e | higher
      · exact .inl e.symm
      · exact .inr ⟨higher, lower⟩

/-! ### Beside -/

/-- An element is found behind others that differ from it. -/
lemma idxOf?_append_cons {x : NodeId} {before after : List NodeId} (new : x ∉ before) :
    (before ++ x :: after).idxOf? x = some before.length := by
  induction before with
  | nil => simp [List.idxOf?_cons]
  | cons y before ih =>
    have differ := Ne.symm (List.ne_of_not_mem_cons new)
    rw [List.cons_append, List.idxOf?_cons, if_neg (by simpa using differ),
      ih (List.not_mem_of_not_mem_cons new)]
    rfl

/-- The element children of a node are its children that are elements. -/
lemma Linked.mem_elementChildren (linked : Linked tree) {parent child : NodeId} :
    child ∈ tree.elementChildren parent ↔ tree.ParentOf parent child ∧ tree.isElement child := by
  rw [elementChildren, List.mem_filter, linked.mem_children_iff]
  rfl

/-- In a well-formed tree they are the elements that it is the parent of. -/
lemma WellFormed.mem_elementChildren (wf : WellFormed tree) {parent child : NodeId} :
    child ∈ tree.elementChildren parent ↔ tree.ParentOf parent child ∧ tree.isElement child :=
  wf.linked.mem_elementChildren

/-- No element child is in the list twice. -/
lemma Linked.nodup_elementChildren (linked : Linked tree) (id : NodeId) :
    (tree.elementChildren id).Nodup :=
  (linked.nodup_children id).filter _

section
variable {parent id : NodeId} {before after : List NodeId}

/-- An element that stands among the children of a node has these as its siblings. -/
lemma Linked.siblings_eq (linked : Linked tree)
    (h : tree.elementChildren parent = before ++ id :: after) :
    tree.siblings id = before ++ id :: after := by
  have member : id ∈ tree.elementChildren parent := h ▸ List.mem_append_right _ (.head _)
  unfold siblings
  rw [linked.parent?_eq_some_iff.2 (linked.mem_elementChildren.1 member).1]
  exact h

/-- The index of a node among its siblings is the number of those in front. -/
lemma Linked.idxOf?_siblings (linked : Linked tree)
    (h : tree.elementChildren parent = before ++ id :: after) :
    (tree.siblings id).idxOf? id = some before.length := by
  have nodup := linked.nodup_elementChildren parent
  rw [h, List.nodup_append] at nodup
  rw [linked.siblings_eq h]
  exact idxOf?_append_cons fun member => nodup.2.2 id member id (.head _) rfl

/-- The sibling right before an element is the last one of those before it. -/
theorem Linked.previousSibling?_eq (linked : Linked tree)
    (h : tree.elementChildren parent = before ++ id :: after) :
    tree.previousSibling? id = before.getLast? := by
  unfold previousSibling?
  rw [linked.idxOf?_siblings h, linked.siblings_eq h, List.getLast?_eq_getElem?]
  cases e : before.length with
  | zero => simp [List.eq_nil_of_length_eq_zero e]
  | succ index => exact List.getElem?_append_left (by omega)

/-- The previous siblings of an element are those before it, the nearest first. -/
theorem Linked.previousSiblings_eq (linked : Linked tree)
    (h : tree.elementChildren parent = before ++ id :: after) :
    tree.previousSiblings id = before.reverse := by
  unfold previousSiblings
  rw [linked.idxOf?_siblings h, linked.siblings_eq h]
  simp

end

/-- What is among its own siblings stands in a list of element children. -/
lemma exists_elementChildren_of_idxOf? {id : NodeId} {index : Nat}
    (h : (tree.siblings id).idxOf? id = some index) :
    ∃ parent before after, tree.elementChildren parent = before ++ id :: after := by
  have member : id ∈ tree.siblings id := by
    rw [← List.isSome_idxOf?, h]
    rfl
  unfold siblings at member
  split at member
  · rename_i parent _
    obtain ⟨before, after, e⟩ := List.append_of_mem member
    exact ⟨parent, before, after, e⟩
  · cases member

/-- The previous sibling is the one right in front. -/
theorem Linked.previousSibling?_eq_some_iff (linked : Linked tree) {previous id : NodeId} :
    tree.previousSibling? id = some previous ↔ ∃ parent before after,
      tree.elementChildren parent = before ++ previous :: id :: after := by
  constructor
  · intro h
    obtain ⟨parent, earlier, after, e⟩ : ∃ parent before after,
        tree.elementChildren parent = before ++ id :: after := by
      unfold previousSibling? at h
      split at h
      · rename_i index
        exact exists_elementChildren_of_idxOf? index
      · cases h
    rw [linked.previousSibling?_eq e] at h
    obtain ⟨before, rfl⟩ := List.getLast?_eq_some_iff.1 h
    exact ⟨parent, before, after, by rw [e, List.append_assoc]; rfl⟩
  · intro h
    obtain ⟨parent, before, after, e⟩ := h
    rw [List.append_cons] at e
    rw [linked.previousSibling?_eq e, List.getLast?_concat]

/-- The previous siblings are those in front. -/
theorem Linked.mem_previousSiblings_iff (linked : Linked tree) {previous id : NodeId} :
    previous ∈ tree.previousSiblings id ↔ ∃ parent before between after,
      tree.elementChildren parent = before ++ previous :: between ++ id :: after := by
  constructor
  · intro h
    obtain ⟨parent, earlier, after, e⟩ : ∃ parent before after,
        tree.elementChildren parent = before ++ id :: after := by
      unfold previousSiblings at h
      split at h
      · rename_i index
        exact exists_elementChildren_of_idxOf? index
      · cases h
    rw [linked.previousSiblings_eq e, List.mem_reverse] at h
    obtain ⟨before, between, rfl⟩ := List.append_of_mem h
    exact ⟨parent, before, between, after, e⟩
  · intro h
    obtain ⟨parent, before, between, after, e⟩ := h
    rw [linked.previousSiblings_eq e, List.mem_reverse]
    exact List.mem_append_right _ (.head _)

end TreeQuery.Tree
