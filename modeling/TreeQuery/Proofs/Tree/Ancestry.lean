import Mathlib.Data.Finset.Card
import Mathlib.Logic.Relation
import TreeQuery.Proofs.Tree.Links

/-!
# Ancestors

A tree is well-formed if it is built, no node is its own ancestor and the document has no parent.
In such a tree the nodes below a node, and those above it, are counted by its `height` and its
`depth`.  Both stay within the size of the tree and fall along the links, so that induction over a
subtree is possible and the walks, bounded by the size of the tree, never stop early.
-/

namespace TreeQuery.Tree
open Relation

variable {tree : Tree}

/-- One node is the parent of another. -/
def ParentOf (tree : Tree) (parent child : NodeId) : Prop := tree.parentLink? child = some parent

/-- One node is above another. -/
def Ancestor (tree : Tree) : NodeId → NodeId → Prop := TransGen tree.ParentOf

/-- A node is the top of a subtree or below it. -/
def InSubtree (tree : Tree) : NodeId → NodeId → Prop := ReflTransGen tree.ParentOf

/-- A tree that is built and is indeed a tree: nothing is above itself, and nothing is above the
document. -/
structure WellFormed (tree : Tree) : Prop where
  built : Built tree
  acyclic : ∀ id, ¬ tree.Ancestor id id
  parentless : tree.parentLink? documentId = none

/-- The links of a well-formed tree are in order. -/
lemma WellFormed.linked (wf : WellFormed tree) : Linked tree := wf.built.linked

/-- The children of a node are those that it is the parent of. -/
lemma WellFormed.mem_children_iff (wf : WellFormed tree) {parent child : NodeId} :
    child ∈ tree.children parent ↔ tree.ParentOf parent child :=
  wf.linked.mem_children_iff

/-- A node has one parent only. -/
lemma ParentOf.unique {p q child : NodeId} (hp : tree.ParentOf p child)
    (hq : tree.ParentOf q child) : p = q := by
  have e : some p = some q := hp.symm.trans hq
  cases e
  rfl

/-- A node with a parent is in the tree. -/
lemma ParentOf.present {parent child : NodeId} (h : tree.ParentOf parent child) :
    child < tree.size := by
  apply Nat.lt_of_not_le
  intro beyond
  unfold ParentOf parentLink? at h
  rw [get?_eq_none_iff.2 beyond] at h
  cases h

/-- Only nodes that take part in selection are parents. -/
lemma Linked.isElementLike_parent (linked : Linked tree) {parent child : NodeId}
    (h : tree.ParentOf parent child) : tree.isElementLike parent :=
  linked.container (linked.mem_children_iff.2 h)

/-- A parent is in the tree. -/
lemma WellFormed.parent_present (wf : WellFormed tree) {parent child : NodeId}
    (link : tree.ParentOf parent child) : parent < tree.size := by
  obtain ⟨kind, found, -⟩ := isElementLike_iff.1 (wf.linked.isElementLike_parent link)
  exact lt_size_of_kind? found

/-- The parent as elements see it is the parent as it is linked. -/
lemma Linked.parent?_eq_some_iff (linked : Linked tree) {parent child : NodeId} :
    tree.parent? child = some parent ↔ tree.ParentOf parent child := by
  unfold parent?
  rw [Option.filter_eq_some_iff]
  exact ⟨fun h => h.1, fun h => ⟨h, linked.isElementLike_parent h⟩⟩

/-- The parent as selection sees it is the parent. -/
lemma WellFormed.parent?_eq_some_iff (wf : WellFormed tree) {parent child : NodeId} :
    tree.parent? child = some parent ↔ tree.ParentOf parent child :=
  wf.linked.parent?_eq_some_iff

/-- Of what may have children only the document has no parent. -/
lemma WellFormed.isElement_of_isElementLike (wf : WellFormed tree) {parent id : NodeId}
    (link : tree.ParentOf parent id) (like : tree.isElementLike id) : tree.isElement id := by
  obtain ⟨kind, found, container⟩ := isElementLike_iff.1 like
  cases kind with
  | document =>
    have parentless := wf.parentless
    rw [← wf.linked.document_iff.1 found] at parentless
    exact absurd (link.symm.trans parentless) nofun
  | element e => simp [isElement, found, NodeKind.isElement]
  | _ => cases container

/-- A node with a parent and a child is an element. -/
lemma WellFormed.isElement_of_parentOf (wf : WellFormed tree) {parent id child : NodeId}
    (link : tree.ParentOf parent id) (link' : tree.ParentOf id child) : tree.isElement id :=
  wf.isElement_of_isElementLike link (wf.linked.isElementLike_parent link')

/-- A node with an ancestor is in the tree. -/
lemma Ancestor.present {above below : NodeId} (h : tree.Ancestor above below) :
    below < tree.size := by
  cases h with
  | single h => exact h.present
  | tail _ h => exact h.present

/-- What is above has a child on the way. -/
lemma ancestor_iff_child {above below : NodeId} :
    tree.Ancestor above below ↔ ∃ child, tree.ParentOf above child ∧ tree.InSubtree child below :=
  TransGen.head'_iff

/-- What is below has a parent on the way. -/
lemma ancestor_iff_parent {above below : NodeId} :
    tree.Ancestor above below ↔
      ∃ parent, tree.InSubtree above parent ∧ tree.ParentOf parent below :=
  TransGen.tail'_iff

/-- A subtree is made of its top and of what is below that. -/
lemma inSubtree_iff {top id : NodeId} :
    tree.InSubtree top id ↔ id = top ∨ tree.Ancestor top id :=
  reflTransGen_iff_eq_or_transGen

/-- Of two nodes above a third one is above the other. -/
lemma InSubtree.total {a b id : NodeId} (ha : tree.InSubtree a id) (hb : tree.InSubtree b id) :
    tree.InSubtree a b ∨ tree.InSubtree b a := by
  induction ha with
  | refl => exact .inr hb
  | @tail parent id ha link ih =>
    -- A node has one parent, so the way up from `id` is the same for `a` and `b` until one ends.
    rcases ReflTransGen.cases_tail hb with e | ⟨other, hb, link'⟩
    · rw [← e]
      exact .inl (ha.tail link)
    · rw [link'.unique link] at hb
      exact ih hb

/-- Subtrees of two children of one node have nothing in common. -/
lemma WellFormed.eq_of_inSubtree (wf : WellFormed tree) {parent a b id : NodeId}
    (linkA : tree.ParentOf parent a) (linkB : tree.ParentOf parent b) (ha : tree.InSubtree a id)
    (hb : tree.InSubtree b id) : a = b := by
  have apart {a b : NodeId} (linkA : tree.ParentOf parent a) (linkB : tree.ParentOf parent b)
      (h : tree.InSubtree a b) : a = b := by
    rcases ReflTransGen.cases_tail h with e | ⟨other, h, link⟩
    · exact e.symm
    · rw [link.unique linkB] at h
      exact absurd (ancestor_iff_child.2 ⟨a, linkA, h⟩) (wf.acyclic parent)
  rcases ha.total hb with h | h
  · exact apart linkA linkB h
  · exact (apart linkB linkA h).symm

/-- A tree in which every link leads to a higher rank is well-formed. -/
theorem WellFormed.of_rank (built : Built tree) (rank : NodeId → Nat)
    (rising : ∀ child < tree.size, (tree.parentLink? child).all fun parent =>
      rank parent < rank child)
    (parentless : tree.parentLink? documentId = none) : WellFormed tree := by
  have link {parent child : NodeId} (h : tree.ParentOf parent child) :
      rank parent < rank child := by
    have all := rising child h.present
    rw [show tree.parentLink? child = some parent from h] at all
    simpa using all
  refine ⟨built, fun id cycle => ?_, parentless⟩
  have lower {above below : NodeId} (h : tree.Ancestor above below) : rank above < rank below := by
    induction h with
    | single h => exact link h
    | tail _ h ih => exact ih.trans (link h)
  exact Nat.lt_irrefl _ (lower cycle)

/-- A list of two items, the first one with a text, and a paragraph after the list. -/
def twoItems : Tree :=
  run [.appendElement 0 "ul".toList [], .appendElement 1 "li".toList [], .appendText 2 "a".toList,
    .appendElement 1 "li".toList [], .appendElement 0 "p".toList []]

/-- Parents have smaller numbers here, so there are no circles. -/
lemma wellFormed_twoItems : WellFormed twoItems :=
  .of_rank (built_run _) id (by decide) (by decide)

/-! ### Heights and depths -/

open Classical in
/-- How many nodes of the tree have a property. -/
noncomputable def count (tree : Tree) (p : NodeId → Prop) : Nat :=
  ((Finset.range tree.size).filter p).card

/-- No property holds of more nodes than there are. -/
lemma count_le_size (p : NodeId → Prop) : tree.count p ≤ tree.size := by
  classical
  unfold count
  exact (Finset.card_filter_le _ _).trans_eq (Finset.card_range _)

/-- A property that another one implies, but not everywhere, holds of fewer nodes. -/
lemma count_lt {p q : NodeId → Prop} (weaker : ∀ id, p id → q id) {id : NodeId}
    (present : id < tree.size) (hq : q id) (hp : ¬ p id) : tree.count p < tree.count q := by
  classical
  unfold count
  apply Finset.card_lt_card
  -- `id` is counted for `q` and not for `p`, which makes the inclusion strict.
  refine ⟨Finset.monotone_filter_right _ fun id _ => weaker id, fun back => hp ?_⟩
  exact (Finset.mem_filter.1 (back (Finset.mem_filter.2 ⟨Finset.mem_range.2 present, hq⟩))).2

/-- How many nodes are below a node. -/
noncomputable def height (tree : Tree) (id : NodeId) : Nat :=
  tree.count fun below => tree.Ancestor id below

/-- How many nodes are above a node. -/
noncomputable def depth (tree : Tree) (id : NodeId) : Nat :=
  tree.count fun above => tree.Ancestor above id

/-- A parent is higher than its children. -/
lemma WellFormed.height_lt (wf : WellFormed tree) {parent child : NodeId}
    (link : tree.ParentOf parent child) : tree.height child < tree.height parent :=
  count_lt (fun _ h => .head link h) link.present (.single link) (wf.acyclic child)

/-- No height reaches the number of nodes. -/
lemma WellFormed.height_lt_size (wf : WellFormed tree) {id : NodeId} (present : id < tree.size) :
    tree.height id < tree.size :=
  (count_lt (q := fun _ => True) (fun _ _ => trivial) present trivial (wf.acyclic id)).trans_le
    (count_le_size _)

/-- Children are deeper than their parent. -/
lemma WellFormed.depth_lt (wf : WellFormed tree) {parent child : NodeId}
    (link : tree.ParentOf parent child) (present : parent < tree.size) :
    tree.depth parent < tree.depth child :=
  count_lt (fun _ h => .tail h link) present (.single link) (wf.acyclic parent)

/-- What holds of a node whenever it holds of its children holds of all nodes. -/
lemma WellFormed.induction_children (wf : WellFormed tree) {P : NodeId → Prop}
    (step : ∀ id, (∀ child ∈ tree.children id, P child) → P id) (id : NodeId) : P id := by
  induction e : tree.height id using Nat.strong_induction_on generalizing id with
  | _ n ih =>
    refine step id fun child h => ?_
    exact ih _ (e ▸ wf.height_lt (wf.mem_children_iff.1 h)) child rfl

end TreeQuery.Tree
