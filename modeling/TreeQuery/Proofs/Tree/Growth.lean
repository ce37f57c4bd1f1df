import TreeQuery.Proofs.Tree.Circles
import TreeQuery.Proofs.Tree.Outline

/-!
# Growing a tree in document order

If each new node becomes the last child of its parent, and everything below it is added before the
next one, then the numbers that the nodes get are their order in the document.  `Grows` is the
relation between the tree before and the tree after; the open nodes on the way down to the parent
are those whose children are not complete yet, and of all old nodes only the parent changes
(`Grows.get?_of_lt`).  Main statement: `Grows.numbered`.
-/

namespace TreeQuery.Tree
open Outline

/-- The tree with a new node as the last child of `parent`. -/
def withChild (tree : Tree) (parent : NodeId) (kind : NodeKind) : Tree :=
  (tree.create kind).link parent tree.size

/-- Outlines are added below `parent`, one after the other. -/
inductive Grows : (parent : Nat) → Tree → List Outline → Tree → Prop where
  | nil {parent : Nat} {tree : Tree} : Grows parent tree [] tree
  | cons {parent : Nat} {tree inner after : Tree} {kind : NodeKind}
    {children more : List Outline} :
    tree.isElementLike parent →
    Fresh kind →
    Grows tree.size (tree.withChild parent kind) children inner →
    Grows parent inner more after →
    Grows parent tree (⟨kind, children⟩ :: more) after

variable {tree middle after : Tree} {parent : Nat} {kind : NodeKind} {outlines : List Outline}

/-- A new node can be attached to any container. -/
lemma appendNew_eq (container : tree.isElementLike parent) (kind : NodeKind) :
    tree.appendNew parent kind = (.ok tree.size, tree.withChild parent kind) := by
  have attached : (tree.create kind).appendChild parent tree.size =
      .ok (tree.withChild parent kind) := by
    apply appendChild_eq_ok_iff.2
    refine ⟨isElementLike_create container kind, ?_, ?_, rfl⟩
    · rw [size_create]
      exact Nat.lt_succ_self _
    · rw [parentLink?_create, parentLink?, get?_eq_none_iff.2 (Nat.le_refl _)]
      rfl
  unfold appendNew
  dsimp only
  rw [attached]

/-- One more number is in use. -/
@[simp] lemma size_withChild (tree : Tree) (parent : NodeId) (kind : NodeKind) :
    (tree.withChild parent kind).size = tree.size + 1 := by
  rw [withChild, size_link, size_create]

/-- The new child is under the next number and has the parent. -/
lemma get?_withChild_size (present : parent < tree.size) (kind : NodeKind) :
    (tree.withChild parent kind).get? tree.size = some ⟨kind, some parent, []⟩ := by
  rw [withChild, get?_link, get?_create, if_pos rfl, Option.map_some, if_pos rfl,
    if_neg (Nat.ne_of_lt present)]

/-- Of the old nodes only the parent changes. -/
lemma get?_withChild_of_lt {id : Nat} (old : id < tree.size) (kind : NodeKind) :
    (tree.withChild parent kind).get? id =
      (tree.get? id).map fun node =>
        if id = parent then { node with children := node.children ++ [tree.size] } else node := by
  rw [withChild, get?_link, get?_create, if_neg (Nat.ne_of_lt old)]
  apply congrArg (Option.map · _)
  funext node
  rw [if_neg (Nat.ne_of_gt old)]
  by_cases e : id = parent
  · rw [if_pos e, if_pos e.symm]
  · rw [if_neg e, if_neg (Ne.symm e)]

/-- Adding a child to a container is a change that trees are built by. -/
lemma built_withChild (built : Built tree) (container : tree.isElementLike parent)
    (fresh : Fresh kind) : Built (tree.withChild parent kind) := by
  have same : (tree.withChild parent kind) = (tree.appendNew parent kind).2 := by
    rw [appendNew_eq container]
  rw [same]
  cases fresh with
  | element tag attributes => exact .after (.appendElement parent tag attributes) built
  | text content => exact .after (.appendText parent content) built
  | data content => exact .after (.appendData parent content) built
  | comment content =>
    rw [appendNew_eq_after]
    exact .after (.appendChild parent tree.size) (.after (.createComment content) built)

namespace Grows

/-- Outlines may be added one part after the other. -/
lemma append {left right : List Outline} (first : Grows parent tree left middle)
    (second : Grows parent middle right after) : Grows parent tree (left ++ right) after := by
  induction first with
  | nil => exact second
  | cons container fresh below _ _ ih => exact .cons container fresh below (ih second)

/-- A single outline is added by adding its node and then its children. -/
lemma single {children : List Outline} (container : tree.isElementLike parent)
    (fresh : Fresh kind) (below : Grows tree.size (tree.withChild parent kind) children after) :
    Grows parent tree [⟨kind, children⟩] after :=
  .cons container fresh below .nil

/-- There are as many new nodes as outlined. -/
lemma size_eq (grows : Grows parent tree outlines after) :
    after.size = tree.size + total outlines := by
  induction grows with
  | nil => rfl
  | cons _ _ _ _ inner later =>
    rw [later, inner, size_withChild, total_cons]
    omega

/-- A tree that grows is built if it was built before. -/
lemma built (grows : Grows parent tree outlines after) (start : Built tree) : Built after := by
  induction grows with
  | nil => exact start
  | cons container fresh _ _ inner later =>
    exact later (inner (built_withChild start container fresh))

/-- Of the old nodes only the parent changes: it has new children at the end. -/
theorem get?_of_lt (grows : Grows parent tree outlines after) {id : Nat} (old : id < tree.size) :
    after.get? id =
      (tree.get? id).map fun node =>
        if id = parent then { node with children := node.children ++ tops tree.size outlines }
        else node := by
  induction grows with
  | nil => simp [tops]
  | @cons parent tree middle after kind children more container fresh below next inner later =>
    have size := below.size_eq
    rw [size_withChild] at size
    rw [later (by omega), inner (by rw [size_withChild]; omega), get?_withChild_of_lt old, size,
      Option.map_map, Option.map_map, tops]
    apply congrArg (Option.map · _)
    funext node
    by_cases e : id = parent
    · simp [e, Nat.ne_of_lt (e ▸ old)]
    · simp [e, Nat.ne_of_lt old]

/-- Old nodes but the parent stay as they are. -/
lemma get?_of_ne (grows : Grows parent tree outlines after) {id : Nat} (old : id < tree.size)
    (differs : id ≠ parent) : after.get? id = tree.get? id := by
  simp only [grows.get?_of_lt old, if_neg differs, Option.map_id']

/-- Old nodes that take part in selection still do. -/
lemma isElementLike (grows : Grows parent tree outlines after) {id : Nat}
    (container : tree.isElementLike id) : after.isElementLike id := by
  obtain ⟨kind, found, isContainer⟩ := isElementLike_iff.1 container
  refine isElementLike_iff.2 ⟨kind, ?_, isContainer⟩
  rw [kind?, grows.get?_of_lt (lt_size_of_kind? found), Option.map_map, ← found, kind?]
  apply congrArg (Option.map · _)
  funext node
  dsimp only [Function.comp]
  split <;> rfl

/-- The new nodes are numbered in document order. -/
theorem stands (grows : Grows parent tree outlines after) :
    Stands after parent tree.size outlines := by
  induction grows with
  | nil => exact .nil
  | @cons parent tree middle after kind children more container fresh below next inner later =>
    obtain ⟨_, found, -⟩ := isElementLike_iff.1 container
    have present : parent < tree.size := lt_size_of_kind? found
    have size := below.size_eq
    rw [size_withChild] at inner size
    apply Stands.cons
    · -- The new node gets its children while they are added, and then stays as it is.
      rw [next.get?_of_ne (by omega) (by omega),
        below.get?_of_lt (by rw [size_withChild]; omega), get?_withChild_size present,
        Option.map_some, if_pos rfl, size_withChild]
      rfl
    · apply inner.congr
      intro id from' to'
      exact (next.get?_of_ne (by omega) (by omega)).symm
    · rw [← size]
      exact later

/-- A tree that grows from the new one is numbered in document order. -/
theorem numbered (grows : Grows documentId .new outlines after) : Numbered after outlines where
  document := grows.get?_of_lt Nat.zero_lt_one
  stands := grows.stands
  size_eq := grows.size_eq

end Grows
end TreeQuery.Tree
