import TreeQuery.Proofs.Text.Words
import TreeQuery.Proofs.Tree.DocumentOrder
import TreeQuery.Tree.Content

/-!
# The content of a subtree

In a well-formed tree the text of a node is joined from the texts of its children, however deep
these go: the bound on the depth is never reached.  So it is what the text nodes below the node
hold, in document order, and its data is what the data nodes and comments among the same nodes
hold.  Main statement: `WellFormed.content_eq`.
-/

namespace TreeQuery

/-- What a data node or a comment holds. -/
def NodeKind.hidden? : NodeKind → Option Text
  | data content | comment content => some content
  | _ => none

namespace Tree

variable {tree : Tree}

/-- Beyond the height of a node there is no more text to be found. -/
lemma WellFormed.textWithin_succ (wf : WellFormed tree) {steps : Nat} {id : NodeId}
    (enough : id < tree.size → tree.height id < steps) :
    tree.textWithin (steps + 1) id = tree.textWithin steps id := by
  induction steps generalizing id with
  | zero =>
    have missing : tree.kind? id = none := by
      cases e : tree.kind? id with
      | none => rfl
      | some kind => exact absurd (enough (lt_size_of_kind? e)) (Nat.not_lt_zero _)
    simp [textWithin, missing]
  | succ steps ih =>
    have deeper : (tree.children id).flatMap (tree.textWithin (steps + 1)) =
        (tree.children id).flatMap (tree.textWithin steps) := by
      refine List.flatMap_congr fun child member => ih fun _ => ?_
      have link := wf.mem_children_iff.1 member
      exact (wf.height_lt link).trans_le (Nat.le_of_lt_succ (enough (wf.parent_present link)))
    rw [textWithin, textWithin, deeper]

/-- The joined text of a node and all below it, as the nodes hold it. -/
def rawText (tree : Tree) (id : NodeId) : Text := tree.textWithin tree.size id

/-- A text node holds its own text, and a container that of its children. -/
theorem WellFormed.rawText_eq (wf : WellFormed tree) (id : NodeId) :
    tree.rawText id =
      match tree.kind? id with
      | some (.text content) => content
      | some .document | some (.element _) => (tree.children id).flatMap tree.rawText
      | _ => [] := by
  have deeper : tree.textWithin (tree.size + 1) id = tree.rawText id :=
    wf.textWithin_succ wf.height_lt_size
  exact deeper.symm

/-! ### What is collected -/

/-- What a text node holds. -/
def heldText? (tree : Tree) (id : NodeId) : Option Text := (tree.kind? id).bind (·.text?)

/-- What a data node or a comment holds. -/
def heldData? (tree : Tree) (id : NodeId) : Option Text := (tree.kind? id).bind (·.hidden?)

/-- Texts that are there or not may be put together with nothing for the missing ones. -/
lemma flatMap_getD {α : Type} (f : α → Option Text) (l : List α) :
    (l.flatMap fun a => (f a).getD []) = (l.filterMap f).flatten := by
  induction l with
  | nil => rfl
  | cons a l ih =>
    rw [List.flatMap_cons, ih]
    cases e : f a with
    | none => rw [List.filterMap_cons_none e]; rfl
    | some content => rw [List.filterMap_cons_some e, List.flatten_cons]; rfl

/-- Only elements and the document have something below them. -/
lemma WellFormed.descendants_of_not_isElementLike (wf : WellFormed tree) {id : NodeId}
    (leaf : ¬ tree.isElementLike id) : tree.descendants id = [] := by
  have childless : tree.children id = [] := by
    rw [List.eq_nil_iff_forall_not_mem]
    exact fun child member => leaf (wf.linked.container member)
  rw [wf.descendants_eq, childless]
  rfl

/-- The texts of a node and of all below it are joined in document order. -/
lemma WellFormed.rawText_eq_flatMap (wf : WellFormed tree) (id : NodeId) :
    tree.rawText id =
      (id :: tree.descendants id).flatMap fun node => (tree.heldText? node).getD [] := by
  induction id using wf.induction_children with
  | step id ih =>
    have inner : (tree.children id).flatMap tree.rawText =
        (tree.descendants id).flatMap fun node => (tree.heldText? node).getD [] := by
      rw [wf.descendants_eq, List.flatMap_assoc]
      exact List.flatMap_congr ih
    have leaf (other : ¬ tree.isElementLike id) :
        (tree.descendants id).flatMap (fun node => (tree.heldText? node).getD []) = [] := by
      rw [wf.descendants_of_not_isElementLike other]
      rfl
    rw [wf.rawText_eq, List.flatMap_cons]
    cases found : tree.kind? id with
    | none =>
      rw [leaf (by simp [isElementLike, found]), heldText?, found]
      rfl
    | some kind =>
      cases kind with
      | document | element =>
        rw [heldText?, found]
        exact inner
      | text content =>
        rw [leaf (by simp [isElementLike, found, NodeKind.isContainer]), heldText?, found]
        exact (List.append_nil content).symm
      | data | comment =>
        rw [leaf (by simp [isElementLike, found, NodeKind.isContainer]), heldText?, found]
        rfl

/-- The text of a container is put together of what text nodes below it hold. -/
lemma WellFormed.rawText_of_isElementLike (wf : WellFormed tree) {id : NodeId}
    (like : tree.isElementLike id) :
    tree.rawText id = ((tree.descendants id).filterMap tree.heldText?).flatten := by
  have own : tree.heldText? id = none := by
    obtain ⟨kind, found, container⟩ := isElementLike_iff.1 like
    rw [heldText?, found]
    cases kind <;> first | rfl | cases container
  rw [wf.rawText_eq_flatMap, List.flatMap_cons, own, flatMap_getD]
  rfl

/-- The text of an element or the document is that of exactly the text nodes below it, in document
order, with every run of white space written as one space and none at the ends; its own text is that
of the text nodes among its children.  Its data is what exactly the data nodes and comments below it
hold, in the same order and as they hold it. -/
theorem WellFormed.content_eq (wf : WellFormed tree) {id : NodeId} (like : tree.isElementLike id) :
    tree.text id = Text.trim
      (Text.squeeze ((tree.descendants id).filterMap tree.heldText?).flatten) ∧
    tree.ownText id = Text.trim
      (Text.squeeze ((tree.children id).filterMap tree.heldText?).flatten) ∧
    tree.data id = ((tree.descendants id).filterMap tree.heldData?).flatten ∧
    Text.Collapsed (tree.text id) ∧ Text.Collapsed (tree.ownText id) := by
  refine ⟨?_, ?_, ?_, Text.collapsed_collapse _, Text.collapsed_collapse _⟩
  · rw [← wf.rawText_of_isElementLike like]
    exact Text.collapse_eq_trim_squeeze _
  · rw [← flatMap_getD]
    exact Text.collapse_eq_trim_squeeze _
  · rw [← flatMap_getD]
    refine List.flatMap_congr fun node _ => ?_
    rw [heldData?]
    cases tree.kind? node with
    | none => rfl
    | some kind => cases kind <;> rfl

/-- A paragraph with a word that goes on in an element, a script and a comment. -/
def mixedParagraph : Tree :=
  run [.appendElement 0 "p".toList [], .appendText 1 "\t on".toList,
    .appendElement 1 "b".toList [], .appendText 3 "e  ".toList, .appendData 3 " x ".toList,
    .createComment "y".toList, .appendChild 1 6, .appendText 1 "\n two ".toList]

/-- The parts of the first word are joined before white space is collapsed. -/
theorem content_mixedParagraph :
    WellFormed mixedParagraph ∧ mixedParagraph.isElementLike 1 ∧
      mixedParagraph.text 1 = "one two".toList ∧ mixedParagraph.ownText 1 = "on two".toList ∧
      mixedParagraph.data 1 = " x y".toList := by
  have wf : WellFormed mixedParagraph := .of_rank (built_run _) id (by decide) (by decide)
  have like : mixedParagraph.isElementLike 1 := by decide
  obtain ⟨text, own, data, -, -⟩ := wf.content_eq like
  exact ⟨wf, like, text.trans (by decide), own.trans (by decide), data.trans (by decide)⟩

end Tree
end TreeQuery
