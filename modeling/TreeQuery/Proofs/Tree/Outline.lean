import TreeQuery.Proofs.Tree.DocumentOrder

/-!
# Outlines

An outline is a node with everything below it, seen without numbers: what the nodes are, and their
order.  `Tree.outline` reads it off a tree.  Where the nodes of a tree are numbered in document
order (`Stands`, `Numbered`), a walk over them counts.  Main statements: `Numbered.outline_eq` and
`Numbered.descendants_eq`.
-/

namespace TreeQuery

/-- A node and everything below it. -/
structure Outline where
  kind : NodeKind
  children : List Outline

namespace Outline

/-- What the node and the nodes below it are, in document order. -/
def kinds : Outline → List NodeKind
  | ⟨kind, children⟩ => kind :: children.flatMap kinds

/-- How many nodes there are in some outlines. -/
def total (outlines : List Outline) : Nat := (outlines.flatMap kinds).length

/-- The numbers at which outlines stand that are numbered one after the other from `first` on. -/
def tops (first : Nat) : List Outline → List NodeId
  | [] => []
  | ⟨_, children⟩ :: more => first :: tops (first + 1 + total children) more

/-- Outlines have the first node, the ones below it, and those of the outlines behind it. -/
@[simp] lemma total_cons (kind : NodeKind) (children more : List Outline) :
    total (⟨kind, children⟩ :: more) = 1 + total children + total more := by
  simp only [total, List.flatMap_cons, kinds, List.length_append, List.length_cons]
  omega

/-- The first number is that of the first node, and those below it come next. -/
lemma range'_total_cons (first : Nat) (kind : NodeKind) (children more : List Outline) :
    List.range' first (total (⟨kind, children⟩ :: more)) =
      first :: List.range' (first + 1) (total children) ++
        List.range' (first + 1 + total children) (total more) := by
  rw [total_cons, Nat.add_assoc, Nat.add_comm 1, List.range'_succ, ← List.range'_append_1,
    List.cons_append]

end Outline

namespace Tree
open Outline

variable {tree : Tree}

/-! ### The outline of a node -/

/-- The outline of a node, as far as `depth` levels show it. -/
def outlineWithin (tree : Tree) : (depth : Nat) → NodeId → Option Outline
  | 0, _ => none
  | depth + 1, id =>
    (tree.kind? id).map fun kind => ⟨kind, (tree.children id).filterMap (outlineWithin tree depth)⟩

/-- The outline of a node. -/
def outline (tree : Tree) (id : NodeId) : Option Outline := tree.outlineWithin tree.size id

/-- With steps enough for the height of a node another one adds nothing to its outline. -/
lemma WellFormed.outlineWithin_succ (wf : WellFormed tree) {steps : Nat} {id : NodeId}
    (enough : id < tree.size → tree.height id < steps) :
    tree.outlineWithin (steps + 1) id = tree.outlineWithin steps id := by
  induction steps generalizing id with
  | zero =>
    have missing : tree.kind? id = none := by
      cases e : tree.kind? id with
      | none => rfl
      | some kind => exact absurd (enough (lt_size_of_kind? e)) (Nat.not_lt_zero _)
    simp [outlineWithin, missing]
  | succ steps ih =>
    have deeper : (tree.children id).filterMap (tree.outlineWithin (steps + 1)) =
        (tree.children id).filterMap (tree.outlineWithin steps) := by
      apply List.filterMap_congr
      intro child member
      have link := wf.mem_children_iff.1 member
      apply ih
      intro _
      exact (wf.height_lt link).trans_le (Nat.le_of_lt_succ (enough (wf.parent_present link)))
    rw [outlineWithin, outlineWithin, deeper]

/-- In a well-formed tree the bound on the levels is never reached. -/
theorem WellFormed.outline_eq (wf : WellFormed tree) (id : NodeId) :
    tree.outline id =
      (tree.kind? id).map fun kind => ⟨kind, (tree.children id).filterMap tree.outline⟩ := by
  have deeper : tree.outlineWithin (tree.size + 1) id = tree.outline id :=
    wf.outlineWithin_succ wf.height_lt_size
  exact deeper.symm

/-- What the nodes below the document are, in document order. -/
def contents (tree : Tree) : List NodeKind :=
  (tree.descendants documentId).filterMap tree.kind?

/-! ### Numbering in document order -/

/-- Outlines stand below `parent`, their nodes numbered in document order from `first` on. -/
inductive Stands (tree : Tree) : (parent first : Nat) → List Outline → Prop where
  | nil {parent first : Nat} : Stands tree parent first []
  | cons {parent first : Nat} {kind : NodeKind} {children more : List Outline} :
    tree.get? first = some ⟨kind, some parent, tops (first + 1) children⟩ →
    Stands tree first (first + 1) children →
    Stands tree parent (first + 1 + total children) more →
    Stands tree parent first (⟨kind, children⟩ :: more)

variable {parent first : Nat} {outlines : List Outline}

/-- Where outlines stand depends on the nodes with their numbers only. -/
lemma Stands.congr {other : Tree} (stands : Stands tree parent first outlines)
    (same : ∀ id : Nat, first ≤ id → id < first + total outlines → tree.get? id = other.get? id) :
    Stands other parent first outlines := by
  induction stands with
  | nil => exact .nil
  | @cons parent first kind children more found _ _ below next =>
    rw [total_cons] at same
    apply Stands.cons
    · rw [← same first (Nat.le_refl _) (by omega)]
      exact found
    · apply below
      intro id from' to'
      exact same id (by omega) (by omega)
    · apply next
      intro id from' to'
      exact same id (by omega) (by omega)

/-- The kinds of the nodes are those of the outlines, in their order. -/
lemma Stands.filterMap_kind? (stands : Stands tree parent first outlines) :
    (List.range' first (total outlines)).filterMap tree.kind? = outlines.flatMap kinds := by
  induction stands with
  | nil => rfl
  | @cons parent first kind children more found _ _ below next =>
    rw [range'_total_cons, List.filterMap_append, List.filterMap_cons_some (kind?_of_get? found),
      below, next, List.flatMap_cons, kinds]

/-- All nodes that stand below a parent with a smaller number have parents with smaller numbers. -/
lemma Stands.exists_parent (stands : Stands tree parent first outlines) (above : parent < first) :
    ∀ id ∈ List.range' first (total outlines), ∃ upper < id, tree.ParentOf upper id := by
  induction stands with
  | nil => nofun
  | @cons parent first kind children more found _ _ below next =>
    intro id member
    rw [range'_total_cons, List.mem_append, List.mem_cons] at member
    rcases member with (rfl | inner) | later
    · exact ⟨parent, above, parentLink?_of_get? found⟩
    · exact below (Nat.lt_succ_self _) id inner
    · exact next (by omega) id later

/-- What stands in a tree is outlined as it was given. -/
lemma Stands.filterMap_outline (wf : WellFormed tree)
    (stands : Stands tree parent first outlines) :
    (tops first outlines).filterMap tree.outline = outlines := by
  induction stands with
  | nil => rfl
  | @cons parent first kind children more found _ _ below next =>
    have shown : tree.outline first = some ⟨kind, children⟩ := by
      rw [wf.outline_eq, kind?_of_get? found, children_of_get? found, below]
      rfl
    rw [tops, List.filterMap_cons_some shown, next]

/-- What is below the tops is in the order of the numbers. -/
lemma Stands.flatMap_descendants (wf : WellFormed tree)
    (stands : Stands tree parent first outlines) :
    ((tops first outlines).flatMap fun top => top :: tree.descendants top) =
      List.range' first (total outlines) := by
  induction stands with
  | nil => rfl
  | @cons parent first kind children more found _ _ below next =>
    rw [tops, List.flatMap_cons, next, wf.descendants_eq, children_of_get? found, below,
      range'_total_cons]

/-- The tree has a document with some outlines, all nodes numbered in document order, and no other
nodes. -/
structure Numbered (tree : Tree) (outlines : List Outline) : Prop where
  document : tree.get? documentId = some ⟨.document, none, tops 1 outlines⟩
  stands : Stands tree documentId 1 outlines
  size_eq : tree.size = 1 + total outlines

namespace Numbered

/-- All nodes but the document have parents with smaller numbers. -/
lemma exists_parent (numbered : Numbered tree outlines) {id : NodeId} (present : id < tree.size)
    (other : id ≠ documentId) : ∃ upper < id, tree.ParentOf upper id := by
  apply numbered.stands.exists_parent Nat.zero_lt_one
  rw [List.mem_range'_1, ← numbered.size_eq]
  exact ⟨Nat.pos_of_ne_zero other, present⟩

/-- The document has no parent. -/
lemma parentless (numbered : Numbered tree outlines) : tree.parentLink? documentId = none :=
  parentLink?_of_get? numbered.document

/-- Parents have smaller numbers. -/
lemma parent_lt (numbered : Numbered tree outlines) {parent child : NodeId}
    (link : tree.ParentOf parent child) : parent < child := by
  have other : child ≠ documentId := by
    rintro rfl
    exact absurd (link.symm.trans numbered.parentless) nofun
  obtain ⟨upper, lower, link'⟩ := numbered.exists_parent link.present other
  rw [link.unique link']
  exact lower

/-- Numbers rise from parents to children, so there are no circles. -/
theorem wellFormed (numbered : Numbered tree outlines) (built : Built tree) : WellFormed tree := by
  apply WellFormed.of_rank built id _ numbered.parentless
  intro child _
  cases link : tree.parentLink? child with
  | none => rfl
  | some parent => exact decide_eq_true (numbered.parent_lt link)

/-- The tree is outlined as it was given. -/
theorem outline_eq (numbered : Numbered tree outlines) (wf : WellFormed tree) :
    tree.outline documentId = some ⟨.document, outlines⟩ := by
  rw [wf.outline_eq, kind?_of_get? numbered.document, children_of_get? numbered.document,
    numbered.stands.filterMap_outline wf]
  rfl

/-- All nodes are below the document, in the order of their numbers. -/
theorem descendants_eq (numbered : Numbered tree outlines) (wf : WellFormed tree) :
    tree.descendants documentId = List.range' 1 (tree.size - 1) := by
  rw [wf.descendants_eq, children_of_get? numbered.document, numbered.stands.flatMap_descendants wf,
    numbered.size_eq, Nat.add_sub_cancel_left]

/-- All nodes but the document are below the document. -/
lemma mem_descendants (numbered : Numbered tree outlines) (wf : WellFormed tree) {id : NodeId}
    (present : id < tree.size) (other : id ≠ documentId) : id ∈ tree.descendants documentId := by
  rw [numbered.descendants_eq wf, numbered.size_eq, Nat.add_sub_cancel_left, List.mem_range'_1,
    ← numbered.size_eq]
  exact ⟨Nat.pos_of_ne_zero other, present⟩

/-- The contents of the tree are those of the outlines. -/
lemma contents_eq (numbered : Numbered tree outlines) (wf : WellFormed tree) :
    tree.contents = outlines.flatMap kinds := by
  rw [contents, numbered.descendants_eq wf, numbered.size_eq, Nat.add_sub_cancel_left,
    numbered.stands.filterMap_kind?]

/-- In document order the numbers rise, wherever one starts. -/
theorem pairwise_documentOrder (numbered : Numbered tree outlines) (wf : WellFormed tree)
    (root : Nat) : (tree.documentOrder root).Pairwise (· < ·) := by
  have whole : (documentId :: tree.descendants documentId).Pairwise (· < ·) := by
    rw [numbered.descendants_eq wf]
    exact List.pairwise_lt_range' (s := 0) (n := tree.size - 1 + 1)
  have part : (tree.documentOrder root).Sublist (root :: tree.descendants root) :=
    List.filter_sublist.cons_cons root
  apply List.Pairwise.sublist part
  rcases Nat.eq_zero_or_pos root with rfl | other
  · exact whole
  rcases Nat.lt_or_ge root tree.size with present | beyond
  · have below : tree.Ancestor documentId root := by
      rw [← wf.mem_descendants, numbered.descendants_eq wf, List.mem_range'_1]
      omega
    exact whole.sublist ((wf.descendants_sublist below).cons _)
  · rw [wf.descendants_eq, wf.children_of_size_le beyond]
    exact List.pairwise_singleton _ root

end Numbered
end Tree
end TreeQuery
