import TreeQuery.Proofs.Tree.Relatives
import TreeQuery.Selector.Matching

/-!
# What combinators relate

A combinator stands for a relation between two nodes of the tree.  What it leads to in a search are
the nodes of the subtree in that relation to the element at hand.  Main statement:
`mem_related_iff`.
-/

namespace TreeQuery.Selector
open TreeQuery.Tree

/-- A node and another one to its right in a selector are as the combinator between them says. -/
def Combinator.Relates (tree : Tree) (left right : NodeId) : Combinator → Prop
  | child => tree.ParentOf left right
  | descendant => tree.Ancestor left right
  | nextSibling => ∃ parent before after,
      tree.elementChildren parent = before ++ left :: right :: after
  | subsequentSibling => ∃ parent before between after,
      tree.elementChildren parent = before ++ left :: between ++ right :: after

variable {tree : Tree} {root left right : NodeId} {combinator : Combinator}

/-- What a combinator relates otherwise than by descent are two element children of one node. -/
lemma siblings_of_relates (wf : WellFormed tree)
    (sibling : combinator = .nextSibling ∨ combinator = .subsequentSibling)
    (related : combinator.Relates tree left right) :
    left ≠ right ∧ tree.isElement left ∧
      ∃ parent, tree.ParentOf parent left ∧ tree.ParentOf parent right := by
  have apart (parent : NodeId) (before between after : List NodeId)
      (e : tree.elementChildren parent = before ++ left :: between ++ right :: after) :
      left ≠ right ∧ tree.isElement left ∧
        ∃ parent, tree.ParentOf parent left ∧ tree.ParentOf parent right := by
    have first := wf.mem_elementChildren.1 (show left ∈ tree.elementChildren parent by simp [e])
    have second := wf.mem_elementChildren.1 (show right ∈ tree.elementChildren parent by simp [e])
    refine ⟨?_, first.2, parent, first.1, second.1⟩
    rintro rfl
    have nodup := wf.linked.nodup_elementChildren parent
    simp [e, List.nodup_append] at nodup
  rcases sibling with rfl | rfl
  · obtain ⟨parent, before, after, e⟩ := related
    exact apart parent before [] after (by simp [e])
  · obtain ⟨parent, before, between, after, e⟩ := related
    exact apart parent before between after e

/-- What is below something and relates to something is an element. -/
lemma isElement_of_relates (wf : WellFormed tree) (below : tree.Ancestor root left)
    (related : combinator.Relates tree left right) : tree.isElement left := by
  obtain ⟨parent, -, link⟩ := ancestor_iff_parent.1 below
  cases combinator with
  | child => exact wf.isElement_of_parentOf link related
  | descendant =>
    obtain ⟨child, link', -⟩ := ancestor_iff_child.1 related
    exact wf.isElement_of_parentOf link link'
  | nextSibling => exact (siblings_of_relates wf (.inl rfl) related).2.1
  | subsequentSibling => exact (siblings_of_relates wf (.inr rfl) related).2.1

/-- Nothing in the subtree of the root of a search relates to the root. -/
lemma not_relates_root (wf : WellFormed tree) (inside : tree.InSubtree root left) :
    ¬ combinator.Relates tree left root := by
  intro related
  have siblings (sibling : combinator = .nextSibling ∨ combinator = .subsequentSibling) :
      False := by
    obtain ⟨differ, -, parent, link, link'⟩ := siblings_of_relates wf sibling related
    exact differ (wf.eq_of_inSubtree link link' .refl inside)
  cases combinator with
  | child => exact wf.acyclic left (ancestor_iff_child.2 ⟨root, related, inside⟩)
  | descendant => exact wf.acyclic left (related.trans_left inside)
  | nextSibling => exact siblings (.inl rfl)
  | subsequentSibling => exact siblings (.inr rfl)

/-- Siblings of what is below the root of a search are below it too. -/
lemma inSubtree_of_siblings {parent : NodeId} (below : tree.Ancestor root right)
    (link : tree.ParentOf parent left) (link' : tree.ParentOf parent right) :
    tree.InSubtree root left := by
  obtain ⟨top, inside, link''⟩ := ancestor_iff_parent.1 below
  rw [link''.unique link'] at inside
  exact inside.tail link

/-- A combinator leads to what it relates, as far as that is in the subtree of the root. -/
theorem mem_related_iff (wf : WellFormed tree) (inside : tree.InSubtree root right) :
    left ∈ combinator.related tree root right ↔
      combinator.Relates tree left right ∧ tree.InSubtree root left := by
  unfold Combinator.related
  split
  · rename_i top
    subst top
    constructor
    · nofun
    · intro h
      obtain ⟨related, inside⟩ := h
      exact absurd related (not_relates_root wf inside)
  · rename_i differ
    have below := (inSubtree_iff.1 inside).resolve_left differ
    have beside (sibling : combinator = .nextSibling ∨ combinator = .subsequentSibling)
        (related : combinator.Relates tree left right) : tree.InSubtree root left := by
      obtain ⟨-, -, parent, link, link'⟩ := siblings_of_relates wf sibling related
      exact inSubtree_of_siblings below link link'
    cases combinator with
    | child =>
      dsimp only [Combinator.Relates]
      rw [Option.mem_toList, wf.parent?_eq_some_iff]
      -- The parent of what is below the root is the root or below it.
      obtain ⟨parent, inside, link⟩ := ancestor_iff_parent.1 below
      exact ⟨fun link' => ⟨link', link.unique link' ▸ inside⟩, And.left⟩
    | descendant => exact wf.mem_ancestorsWithin below
    | nextSibling =>
      dsimp only
      rw [Option.mem_toList, wf.linked.previousSibling?_eq_some_iff]
      exact ⟨fun related => ⟨related, beside (.inl rfl) related⟩, And.left⟩
    | subsequentSibling =>
      dsimp only
      rw [wf.linked.mem_previousSiblings_iff]
      exact ⟨fun related => ⟨related, beside (.inr rfl) related⟩, And.left⟩

end TreeQuery.Selector
